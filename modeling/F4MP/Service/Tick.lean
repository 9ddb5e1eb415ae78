import F4MP.Service.Outcome

/-!
# What a tick does

`tl_tick` as one change of the session and one list of posts.
-/

namespace F4MP.Service
open SoftFloat Protocol MessageFlags

variable {F : Type}

/-! ## Players that time out -/

/-- The messages about players that leave one after another. -/
def leavePosts : SessionState F → List PlayerId → List (Post F)
  | _, [] => []
  | s, id :: ids =>
      toConnected s .playerLeft (reliable ||| ordered ||| ch1World) { playerId := id } ++
        leavePosts (smRemovePlayer s id) ids

theorem mem_leavePosts {s : SessionState F} {ids : List PlayerId} {p : Post F}
    (member : p ∈ leavePosts s ids) : ∃ id ∈ ids, ∃ connectionId,
      p = ⟨connectionId, .playerLeft, reliable ||| ordered ||| ch1World, { playerId := id }⟩ := by
  induction ids generalizing s with
  | nil => cases member
  | cons id rest ih =>
      rcases List.mem_append.mp member with here | later
      · obtain ⟨player, _, _, rfl⟩ := mem_toConnected here
        exact ⟨id, List.mem_cons_self, player.connectionId, rfl⟩
      · obtain ⟨other, listed, connectionId, rfl⟩ := ih later
        exact ⟨other, List.mem_cons_of_mem id listed, connectionId, rfl⟩

section TimeOut
variable [WireFloat F]

theorem timeOutPlayers_posts (s : ServiceState F) (ids : List PlayerId) :
    ids.foldl timeOutPlayer s = { s.post (leavePosts s.session ids) with
      session := ids.foldl smRemovePlayer s.session } := by
  induction ids generalizing s with
  | nil => rfl
  | cons id rest ih =>
      rw [List.foldl_cons, ih, timeOutPlayer, send_tlBroadcastPlayerLeft]
      simp only [ServiceState.post, leavePosts, sendAll_append, List.foldl_cons]
      rfl

end TimeOut

theorem smRemovePlayers_frame (s : SessionState F) (ids : List PlayerId) :
    ids.foldl smRemovePlayer s = { s with players := (ids.foldl smRemovePlayer s).players } := by
  induction ids generalizing s with
  | nil => rfl
  | cons id rest ih => rw [List.foldl_cons, ih]; rfl

theorem mem_smRemovePlayers {s : SessionState F} {ids : List PlayerId} {p : PlayerRuntimeState F}
    (member : p ∈ (ids.foldl smRemovePlayer s).players.slots) :
    ∃ q ∈ s.players.slots, p = q ∨ p = { q with connected := false, connectionId := 0 } := by
  induction ids generalizing s with
  | nil => exact ⟨p, member, .inl rfl⟩
  | cons id rest ih =>
      obtain ⟨q, listed, now⟩ := ih member
      rcases Slots.mem_modifyFirst listed with old | ⟨r, before, _, rfl⟩
      · exact ⟨q, old, now⟩
      · exact ⟨r, before, .inr (now.elim (·) (·))⟩

/-! ## Actors that despawn -/

section Actors
variable [CFloat F]

theorem acTick_frame (s : SessionState F) : acTick s = { s with actors := (acTick s).actors } := by
  unfold acTick
  generalize List.range s.actors.slots.length = indices
  induction indices generalizing s with
  | nil => rfl
  | cons i rest ih =>
      have one : acTickSlot s i = { s with actors := (acTickSlot s i).actors } := by
        rw [acTickSlot]
        split
        · rfl
        · split
          · split <;> rfl
          · rfl
      rw [List.foldl_cons, ih, one]

theorem wsRemoveActors_frame (s : SessionState F) (ids : List ActorNetId) :
    ids.foldl wsRemoveActor s = { s with actors := (ids.foldl wsRemoveActor s).actors } := by
  induction ids generalizing s with
  | nil => rfl
  | cons id rest ih => rw [List.foldl_cons, ih]; rfl

/-- The messages about actors that despawn. -/
def despawnPosts (s : SessionState F) (ids : List ActorNetId) : List (Post F) :=
  ids.flatMap fun id => toConnected s .actorDespawn (reliable ||| ordered ||| ch1World)
    { actorNetId := id, reason := adespawnDead }

theorem despawnActors_posts [WireFloat F] (s : ServiceState F) (ids : List ActorNetId) :
    ids.foldl despawnActor s = { s.post (despawnPosts s.session ids) with
      session := ids.foldl wsRemoveActor s.session } := by
  induction ids generalizing s with
  | nil => rfl
  | cons id rest ih =>
      rw [List.foldl_cons, ih, despawnActor, send_tlBroadcastActorDespawn]
      simp only [ServiceState.post, despawnPosts, List.flatMap_cons, sendAll_append,
        List.foldl_cons]
      rfl

/-! ## The tick -/

/-- The session when the players that were silent for too long have left. -/
def timedOutSession (s : ServiceState F) : SessionState F :=
  (timedOutPlayers { s with ctx := { s.ctx with currentTick := s.ctx.currentTick + 1 } }).foldl
    smRemovePlayer s.session

/-- The session when the dead actors are marked as well. -/
def markedSession (s : ServiceState F) : SessionState F := acTick (timedOutSession s)

def tickSession (s : ServiceState F) : SessionState F :=
  (actorsToDespawn (markedSession s)).foldl wsRemoveActor (markedSession s)

def tickPosts (s : ServiceState F) : List (Post F) :=
  leavePosts s.session
      (timedOutPlayers { s with ctx := { s.ctx with currentTick := s.ctx.currentTick + 1 } }) ++
    despawnPosts (markedSession s) (actorsToDespawn (markedSession s))

omit [CFloat F] in
theorem mem_despawnPosts {s : SessionState F} {ids : List ActorNetId} {p : Post F}
    (member : p ∈ despawnPosts s ids) : ∃ id ∈ ids, ∃ player ∈ s.players.slots,
      player.connected = true ∧ p = ⟨player.connectionId, .actorDespawn,
        reliable ||| ordered ||| ch1World, { actorNetId := id, reason := adespawnDead }⟩ := by
  obtain ⟨id, listed, posted⟩ := List.mem_flatMap.mp member
  obtain ⟨player, slot, connected, rfl⟩ := mem_toConnected posted
  exact ⟨id, listed, player, slot, connected, rfl⟩

theorem tlTick_posts [WireFloat F] (s : ServiceState F) : tlTick s = { s with
    ctx := sendAll s.session.sessionId (tickPosts s)
      { s.ctx with currentTick := s.ctx.currentTick + 1 }
    session := tickSession s } := by
  have sameSession : (markedSession s).sessionId = s.session.sessionId := by
    rw [markedSession, acTick_frame, timedOutSession, smRemovePlayers_frame]
  simp only [tlTick, timeOutPlayers_posts, despawnActors_posts, ServiceState.post, tickPosts,
    sendAll_append, tickSession]
  rw [← sameSession]
  rfl

theorem tickSession_frame (s : ServiceState F) : tickSession s = { s.session with
    players := (timedOutSession s).players, actors := (tickSession s).actors } := by
  rw [tickSession, wsRemoveActors_frame, markedSession, acTick_frame, timedOutSession,
    smRemovePlayers_frame]

theorem tickSession_players (s : ServiceState F) :
    (tickSession s).players = (timedOutSession s).players := by rw [tickSession_frame]

end Actors

end F4MP.Service

import F4MP.Service.Attribution
import F4MP.Service.NetIds
import F4MP.Service.Snapshot
import F4MP.Service.MainLoop
import F4MP.Client.EngineBridge
import F4MP.Client.LiveClient
import F4MP.System.ActorMirror
import F4MP.System.ObjectMirror
import F4MP.System.PlayerMirror

/-!
# Joining a session

A client that polls what its HELLO is answered with is in the session under the id that it was given,
has its profile, and shows the players that have reported a state, and the actors and objects around
the place where its player stands.
-/

namespace F4MP.System
open SoftFloat CFloat Protocol Service Client Transition MessageFlags

variable {F : Type} [CFloat F]

/-! ## What a client shows of a snapshot -/

section Snapshot
variable {c : ClientState F Unit}

/-- The states of players with different ids, behind each other. -/
theorem playerStates_shown {ids : List PlayerId} (few : ids.length < 8) {states : List (MsgPlayerState F)}
    (named : ∀ msg ∈ states, msg.playerId ≠ 0 → msg.playerId ∈ ids)
    (foreign : ∀ msg ∈ states, msg.playerId ≠ c.manager.localPlayerId)
    (apart : states.Pairwise fun a b => a.playerId ≠ 0 → a.playerId ≠ b.playerId)
    (distinct : Slots.Distinct c.remote.players.slots)
    (within : Slots.Within (· ∈ ids) c.remote.players.slots)
    (absent : ∀ msg ∈ states, msg.playerId ≠ 0 → playerShown c msg.playerId = none) :
    let after := states.foldl (fun c msg => (applyMessage defaultBackend .playerState msg c).2) c
    (∀ msg ∈ states, msg.playerId ≠ 0 →
      ∃ record, playerShown after msg.playerId = some record ∧ record.Shows msg) ∧
    ∀ p, (∀ msg ∈ states, msg.playerId ≠ 0 → msg.playerId ≠ p) →
      playerShown after p = playerShown c p := by
  induction states generalizing c with
  | nil => exact ⟨fun _ listed => (by cases listed), fun _ _ => rfl⟩
  | cons msg states ih =>
      rw [List.forall_mem_cons] at named foreign absent
      rw [List.pairwise_cons] at apart
      rw [List.foldl_cons]
      obtain ⟨after, afterIs⟩ : ∃ after, after = (applyMessage defaultBackend .playerState msg c).2 :=
        ⟨_, rfl⟩
      rw [← afterIs]
      have spawns : ∀ id, spawnsPlayer .playerState msg = some id → id ∈ ids := by
        intro id spawned
        by_cases nobody : msg.playerId = 0
        · rw [spawnsPlayer, if_pos nobody] at spawned
          cases spawned
        · rw [spawnsPlayer, if_neg nobody] at spawned
          exact Option.some.inj spawned ▸ named.1 nobody
      have others : ∀ p ≠ msg.playerId, playerShown after p = playerShown c p := fun p other =>
        afterIs ▸ applyPlayerState_other other
      have silent : msg.playerId = 0 → after = c := by
        intro zero
        rw [afterIs]
        simp only [applyMessage, paApplyPlayerState, rpmApplyRemotePlayerState, zero, true_or, if_true]
      have rest := @ih after named.2
        (fun msg' later => by
          rw [afterIs, applyMessage_localPlayerId]
          exact foreign.2 msg' later) apart.2
        (afterIs ▸ applyMessage_playersKept (Slots.distinct_kept 8) defaultBackend_overProxies
          (fun _ _ => trivial) distinct)
        (afterIs ▸ applyMessage_playersKept (Slots.within_kept 8 _) defaultBackend_overProxies spawns
          within)
        (fun msg' later somebody => by
          by_cases same : msg'.playerId = msg.playerId
          · exact absurd same.symm (apart.1 msg' later (same ▸ somebody))
          · rw [others _ same]
            exact absent.2 msg' later somebody)
      refine ⟨List.forall_mem_cons.mpr ⟨fun somebody => ?_, rest.1⟩, fun p nobody => ?_⟩
      · have room : PlayerProxies.HasRoom c.remote.players :=
          (Slots.countP_live_le distinct within).trans_lt few
        rcases applyPlayerState_new somebody foreign.1 (absent.1 somebody) with
          ⟨_, _, record, shown, shows_⟩ | ⟨full, _⟩
        · refine ⟨record, ?_, shows_⟩
          rw [rest.2 msg.playerId fun msg' later _ same =>
            apart.1 msg' later somebody same.symm, afterIs]
          exact shown
        · exact absurd room full
      · rw [List.forall_mem_cons] at nobody
        rw [rest.2 p nobody.2]
        by_cases zero : msg.playerId = 0
        · rw [silent zero]
        · exact others p (Ne.symm (nobody.1 zero))

/-- An actor is spawned, and then its state comes. -/
def applyActor (c : ClientState F Unit) (a : ActorRuntimeState F) : ClientState F Unit :=
  (applyMessage defaultBackend .actorState a.replicatedState
    (applyMessage defaultBackend .actorSpawn (actorSpawnMsg a) c).2).2

/-- What is shown of an actor whose state is the first that comes: it is taken to be alive. -/
def firstView (a : ActorRuntimeState F) : ActorView F := ActorView.spawned.state a.replicatedState

theorem applyActor_shown {a : ActorRuntimeState F}
    (stamped : a.replicatedState.actorNetId = a.actorNetId) (room : ActorProxies.HasRoom c.actors) :
    actorsShown (applyActor c a).actors =
      Function.update (actorsShown c.actors) a.actorNetId (some (firstView a)) := by
  have done : (applyMessage defaultBackend .actorSpawn (actorSpawnMsg a) c).1 = true :=
    proxySpawnActor_done.mpr (.inr room)
  have spawned := applyActorSpawn_shown defaultBackend done
  have known : actorsShown (applyMessage defaultBackend .actorSpawn (actorSpawnMsg a) c).2.actors
      a.replicatedState.actorNetId = some .spawned := by
    rw [spawned, stamped]
    exact Function.update_self _ _ _
  rw [applyActor, applyActorState_known defaultBackend known, spawned, stamped]
  exact Function.update_idem _ _ _

theorem applyActors_shown {ids : List ActorNetId} (few : ids.length < 128)
    {actors : List (ActorRuntimeState F)}
    (stamped : ∀ a ∈ actors, a.replicatedState.actorNetId = a.actorNetId)
    (named : ∀ a ∈ actors, a.actorNetId ∈ ids) (distinct : Slots.Distinct c.actors.slots)
    (within : Slots.Within (· ∈ ids) c.actors.slots) :
    actorsShown (actors.foldl applyActor c).actors =
      actors.foldl (fun (map : ActorMap F) a =>
        Function.update map a.actorNetId (some (firstView a))) (actorsShown c.actors) := by
  induction actors generalizing c with
  | nil => rfl
  | cons a actors ih =>
      rw [List.forall_mem_cons] at stamped named
      have room : ActorProxies.HasRoom c.actors :=
        (Slots.countP_live_le distinct within).trans_lt few
      have kept : ∀ {S : ActorNetId → Prop} {P : List (ProxyActorRecord F) → Prop},
          Slots.Kept 128 S P → S a.actorNetId → P c.actors.slots →
            P (applyActor c a).actors.slots := fun kept named before =>
        applyMessage_actorsKept defaultBackend kept
          (fun _ spawned => Option.some.inj spawned ▸ stamped.1 ▸ named)
          (applyMessage_actorsKept defaultBackend kept
            (fun _ spawned => Option.some.inj spawned ▸ named) before)
      rw [List.foldl_cons, List.foldl_cons, ← applyActor_shown stamped.1 room]
      exact ih stamped.2 named.2 (kept (Slots.distinct_kept 128) trivial distinct)
        (kept (Slots.within_kept 128 _) named.1 within)

theorem spawnObjects_shown {ids : List ObjectNetId} (few : ids.length < 256)
    {objects : List (ObjectRuntimeState F)} (named : ∀ o ∈ objects, o.objectNetId ∈ ids)
    {map : ObjectMap F} (shows_ : Shows c.objects map)
    (within : Slots.Within (· ∈ ids) c.objects.slots) :
    Shows (objects.foldl (fun c o =>
        (applyMessage defaultBackend .objectSpawn (objectSpawnMsg o) c).2) c).objects
      (objects.foldl (fun (map : ObjectMap F) o =>
        Function.update map o.objectNetId (some (runtimeView o))) map) := by
  induction objects generalizing c map with
  | nil => exact shows_
  | cons o objects ih =>
      rw [List.forall_mem_cons] at named
      have room := (Slots.countP_live_le shows_.distinct within).trans_lt few
      have spawned : Shows _ (map.spawn (objectSpawnMsg o)) := shows_.spawn (.inr room)
      refine ih named.2 spawned ?_
      exact applyMessage_objectsKept (Slots.within_kept 256 _)
        (fun _ spawned => Option.some.inj spawned ▸ named.1) within

end Snapshot

/-! ## What the other messages leave alone -/

/-- The messages about other players. -/
def playerMessage : MessageType → Bool
  | .playerState | .playerLeft => true
  | _ => false

/-- The messages about the client's own profile. -/
def profileMessage : MessageType → Bool
  | .profileSnapshot | .profileItems | .profilePerks | .profileAppearance => true
  | _ => false

section Frames
variable {U : Type} {backend : RemoteProxyBackend F U} {connectionId : UInt32} {c : ClientState F U}
  {posts : List (Post F)}

theorem applyMessage_remote {type : MessageType} (other : playerMessage type = false)
    (body : Body F type) : (applyMessage backend type body c).2.remote = c.remote := by
  cases type with
  | playerState => cases other
  | playerLeft => cases other
  | actorState =>
      simp only [applyMessage, paApplyActorState]
      split
      · rfl
      · split <;> rfl
  | actorDespawn =>
      simp only [applyMessage, paApplyActorDespawn]
      split <;> rfl
  | _ => rfl

theorem applyMessage_profile {type : MessageType} (other : profileMessage type = false)
    (body : Body F type) : (applyMessage backend type body c).2.profile = c.profile := by
  cases type with
  | profileSnapshot => cases other
  | profileItems => cases other
  | profilePerks => cases other
  | profileAppearance => cases other
  | actorState =>
      simp only [applyMessage, paApplyActorState]
      split
      · rfl
      · split <;> rfl
  | actorDespawn =>
      simp only [applyMessage, paApplyActorDespawn]
      split <;> rfl
  | _ => rfl

theorem posts_remote (other : ∀ p ∈ posts, playerMessage p.type = false) :
    (posts.foldl (applyPost backend connectionId) c).remote = c.remote :=
  applyPosts_keep (Q := fun after => after.remote = c.remote)
    (fun p member _ same => (applyMessage_remote (other p member) p.body).trans same) rfl

theorem posts_profile (other : ∀ p ∈ posts, profileMessage p.type = false) :
    (posts.foldl (applyPost backend connectionId) c).profile = c.profile :=
  applyPosts_keep (Q := fun after => after.profile = c.profile)
    (fun p member _ same => (applyMessage_profile (other p member) p.body).trans same) rfl

theorem posts_actors (other : ∀ p ∈ posts, aboutActor p.type p.body = none) :
    (posts.foldl (applyPost backend connectionId) c).actors = c.actors :=
  applyPosts_keep (Q := fun after => after.actors = c.actors)
    (fun p member _ same => (applyMessage_actors backend (other p member)).trans same) rfl

theorem posts_objects [WireFloat F] (other : ∀ p ∈ posts, objectMessage p.type = false) :
    (posts.foldl (applyPost backend connectionId) c).objects = c.objects :=
  applyPosts_keep (Q := fun after => after.objects = c.objects)
    (fun p member after same => (applyMessage_objects backend (other p member) p.body after).trans same)
    rfl

end Frames

/-! ## The world of a session -/

/-- Nobody and nothing is shown. -/
structure Blank (c : ClientState F Unit) : Prop where
  players : c.remote.players = .empty
  actors : c.actors = .empty
  objects : c.objects = .empty

/-- What is shown of a session to the player of an id who stands at a place. -/
structure ShowsWorld (s : SessionState F) (id : PlayerId) (center : Vec3f F)
    (c : ClientState F Unit) : Prop where
  players : ∀ q ∈ otherPlayers s id, q.replicatedState.playerId ≠ 0 →
    ShownAs q.playerId q.replicatedState c
  nobodyElse : ∀ p, (∀ q ∈ otherPlayers s id, q.playerId = p → q.replicatedState.playerId = 0) →
    playerShown c p = none
  actors : actorsShown c.actors = Slots.view firstView (actorsNear s center)
  objects : objectsShown c.objects = Slots.view runtimeView (objectsNear s center)

theorem otherPlayers_nodup {s : ServiceState F} (aligned : Aligned s.roster) (id : PlayerId) :
    ((otherPlayers s.session id).map (·.playerId)).Nodup := by
  refine aligned.nodup_ids.sublist (List.Sublist.map _ ?_)
  exact List.monotone_filter_right _ fun p both => (Bool.and_eq_true_iff.mp both).1

theorem otherPlayers_length {s : ServiceState F} (aligned : Aligned s.roster) (id : PlayerId) :
    (otherPlayers s.session id).length ≤ 7 := by
  have connected := aligned.connected_le
  rw [connections, List.length_map] at connected
  refine Nat.le_trans (List.Sublist.length_le ?_) connected
  exact List.monotone_filter_right _ fun p both => (Bool.and_eq_true_iff.mp both).1

omit [CFloat F] in
theorem mem_otherPlayers {s : SessionState F} {id : PlayerId} {q : PlayerRuntimeState F}
    (listed : q ∈ otherPlayers s id) : q ∈ s.players.slots ∧ q.connected = true ∧ q.playerId ≠ id := by
  obtain ⟨slot, both⟩ := List.mem_filter.mp listed
  obtain ⟨connected, other⟩ := Bool.and_eq_true_iff.mp both
  exact ⟨slot, connected, bne_iff_ne.mp other⟩

theorem posts_states (connectionId : UInt32) (flags : UInt16) (players : List (PlayerRuntimeState F))
    (c : ClientState F Unit) :
    (players.map fun p => (⟨connectionId, .playerState, flags, p.replicatedState⟩ : Post F)).foldl
        (applyPost defaultBackend connectionId) c =
      (players.map (·.replicatedState)).foldl
        (fun c msg => (applyMessage defaultBackend .playerState msg c).2) c := by
  simp only [List.foldl_map, applyPost, if_true]

section World
variable {s : ServiceState F} {id : PlayerId} {c : ClientState F Unit}

theorem otherPlayers_shown (owned : StatesOwned s) (seated : id ≠ 0) (blank : Blank c)
    (own : c.manager.localPlayerId = id) :
    let after := ((otherPlayers s.session id).map (·.replicatedState)).foldl
      (fun c msg => (applyMessage defaultBackend .playerState msg c).2) c
    (∀ q ∈ otherPlayers s.session id, q.replicatedState.playerId ≠ 0 →
      ShownAs q.playerId q.replicatedState after) ∧
    ∀ p, (∀ q ∈ otherPlayers s.session id, q.playerId = p → q.replicatedState.playerId = 0) →
      playerShown after p = none := by
  have named : ∀ q ∈ otherPlayers s.session id, q.replicatedState.playerId ≠ 0 →
      q.replicatedState.playerId = q.playerId := fun q listed reported =>
    (owned.owned q (mem_otherPlayers listed).1).resolve_left reported
  have nobody : ∀ p, playerShown c p = none := by
    intro p
    rw [playerShown, blank.players]
    rfl
  have shown := @playerStates_shown F _ c ((otherPlayers s.session id).map (·.playerId)) ?_
    ((otherPlayers s.session id).map (·.replicatedState)) ?_ ?_ ?_ ?_ ?_ ?_
  · refine ⟨fun q listed reported => ?_, fun p unknown => ?_⟩
    · rw [← named q listed reported]
      exact shown.1 _ (List.mem_map_of_mem listed) reported
    · refine (shown.2 p ?_).trans (nobody p)
      intro msg listed reported same
      obtain ⟨q, other, rfl⟩ := List.mem_map.mp listed
      exact reported (unknown q other ((named q other reported).symm.trans same))
  · rw [List.length_map]
    exact Nat.lt_succ_of_le (otherPlayers_length owned.aligned id)
  · intro msg listed reported
    obtain ⟨q, other, rfl⟩ := List.mem_map.mp listed
    exact List.mem_map.mpr ⟨q, other, (named q other reported).symm⟩
  · intro msg listed same
    obtain ⟨q, other, rfl⟩ := List.mem_map.mp listed
    rw [own] at same
    have reported : q.replicatedState.playerId ≠ 0 := same ▸ seated
    exact (mem_otherPlayers other).2.2 ((named q other reported).symm.trans same)
  · rw [List.pairwise_map]
    refine (List.pairwise_map.mp (otherPlayers_nodup owned.aligned id)).imp_of_mem ?_
    intro p q listedP listedQ apart reported same
    exact apart ((named p listedP reported).symm.trans
      (same.trans (named q listedQ (same ▸ reported))))
  · rw [blank.players]
    exact .nil
  · rw [blank.players]
    exact fun _ listed => (by cases listed)
  · exact fun msg _ _ => nobody _

theorem snapshotPosts_shows [WireFloat F] (owned : StatesOwned s) (numbered : Numbered s) (seated : id ≠ 0)
    (connectionId : UInt32) {center : Vec3f F} (fewActors : (actorsNear s.session center).length < 128)
    (fewObjects : (objectsNear s.session center).length < 256) (blank : Blank c)
    (own : c.manager.localPlayerId = id) :
    ShowsWorld s.session id center ((snapshotPosts s.session connectionId id center).foldl
      (applyPost defaultBackend connectionId) c) := by
  have near : ∀ a ∈ actorsNear s.session center, a ∈ s.session.actors.slots ∧ a.inUse = true := by
    intro a listed
    obtain ⟨slot, both⟩ := List.mem_filter.mp listed
    exact ⟨slot, (Bool.and_eq_true_iff.mp both).1⟩
  have nearby : ∀ o ∈ objectsNear s.session center, o.inUse = true := fun o listed =>
    (Bool.and_eq_true_iff.mp (List.mem_filter.mp listed).2).1
  obtain ⟨players, nobodyElse⟩ := otherPlayers_shown owned seated blank own
  rw [snapshotPosts, List.foldl_append, List.foldl_append, posts_states]
  obtain ⟨c₁, c₁Is⟩ : ∃ c₁, c₁ = ((otherPlayers s.session id).map (·.replicatedState)).foldl
    (fun c msg => (applyMessage defaultBackend .playerState msg c).2) c := ⟨_, rfl⟩
  have actors₁ : c₁.actors = .empty := by
    rw [c₁Is, ← posts_states connectionId ch1World, posts_actors, blank.actors]
    intro p listed
    obtain ⟨_, _, rfl⟩ := List.mem_map.mp listed
    rfl
  have objects₁ : c₁.objects = .empty := by
    rw [c₁Is, ← posts_states connectionId ch1World, posts_objects, blank.objects]
    intro p listed
    obtain ⟨_, _, rfl⟩ := List.mem_map.mp listed
    rfl
  rw [← c₁Is] at players nobodyElse ⊢
  clear c₁Is
  obtain ⟨c₂, c₂Is⟩ : ∃ c₂, c₂ = (actorsNear s.session center).foldl applyActor c₁ := ⟨_, rfl⟩
  have posts₂ : ((actorsNear s.session center).flatMap fun a =>
      [(⟨connectionId, .actorSpawn, reliable ||| ordered ||| ch1World, actorSpawnMsg a⟩ : Post F),
        ⟨connectionId, .actorState, ch1World, a.replicatedState⟩]).foldl
          (applyPost defaultBackend connectionId) c₁ = c₂ := by
    rw [List.foldl_flatMap, c₂Is]
    simp only [List.foldl_cons, List.foldl_nil, applyPost, if_true]
    rfl
  have remote₂ : c₂.remote = c₁.remote := by
    rw [← posts₂, posts_remote]
    intro p listed
    obtain ⟨_, _, member⟩ := List.mem_flatMap.mp listed
    simp only [List.mem_cons, List.not_mem_nil, or_false] at member
    rcases member with rfl | rfl <;> rfl
  have objects₂ : c₂.objects = .empty := by
    rw [← posts₂, posts_objects, objects₁]
    intro p listed
    obtain ⟨_, _, member⟩ := List.mem_flatMap.mp listed
    simp only [List.mem_cons, List.not_mem_nil, or_false] at member
    rcases member with rfl | rfl <;> rfl
  rw [posts₂]
  obtain ⟨c₃, c₃Is⟩ : ∃ c₃, c₃ = (objectsNear s.session center).foldl (fun c o =>
    (applyMessage defaultBackend .objectSpawn (objectSpawnMsg o) c).2) c₂ := ⟨_, rfl⟩
  have posts₃ : ((objectsNear s.session center).map fun o =>
      (⟨connectionId, .objectSpawn, reliable ||| ordered ||| ch3Work, objectSpawnMsg o⟩ : Post F)).foldl
          (applyPost defaultBackend connectionId) c₂ = c₃ := by
    simp only [List.foldl_map, c₃Is, applyPost, if_true]
  have remote₃ : c₃.remote = c₁.remote := by
    rw [← posts₃, posts_remote, remote₂]
    intro p listed
    obtain ⟨_, _, rfl⟩ := List.mem_map.mp listed
    rfl
  have actors₃ : c₃.actors = c₂.actors := by
    rw [← posts₃, posts_actors]
    intro p listed
    obtain ⟨_, _, rfl⟩ := List.mem_map.mp listed
    rfl
  rw [posts₃]
  have shown₃ : ∀ p, playerShown c₃ p = playerShown c₁ p := fun p => by
    rw [playerShown, remote₃, playerShown]
  refine ⟨fun q listed reported => ?_, fun p unknown => (shown₃ p).trans (nobodyElse p unknown), ?_, ?_⟩
  · obtain ⟨record, found, shows_⟩ := players q listed reported
    exact ⟨record, (shown₃ _).trans found, shows_⟩
  · rw [actors₃, c₂Is, @applyActors_shown F _ c₁ ((actorsNear s.session center).map (·.actorNetId))
      (by rw [List.length_map]; exact fewActors) _
      (fun a listed => numbered.stamped a (near a listed).1 (near a listed).2)
      (fun a listed => List.mem_map_of_mem listed) (actors₁ ▸ .nil)
      (actors₁ ▸ fun _ listed => (by cases listed))]
    funext k
    refine (Slots.foldl_update (numbered.actors.distinct.sublist List.filter_sublist)
      (fun a listed => (near a listed).2) _ k).trans ?_
    rw [actors₁]
    exact Option.or_none
  · have shows_ : Shows c₂.objects (objectsShown (.empty : ObjectProxies F)) := by
      rw [objects₂]
      exact ⟨.nil, rfl⟩
    have spawned := @spawnObjects_shown F _ c₂ ((objectsNear s.session center).map (·.objectNetId))
      (by rw [List.length_map]; exact fewObjects) (objectsNear s.session center)
      (fun o listed => List.mem_map_of_mem listed) _ shows_
      (objects₂ ▸ fun _ listed => (by cases listed))
    rw [← c₃Is] at spawned
    rw [spawned.shown]
    funext k
    refine (Slots.foldl_update (numbered.objects.distinct.sublist List.filter_sublist)
      nearby _ k).trans ?_
    exact Option.or_none

end World

/-! ## The profile -/

/-- The client shows the profile. -/
structure ProfileShown (profile : PlayerProfile) (shown : ProxyProfileState) : Prop where
  loaded : shown.loaded = true
  snapshot : shown.snapshot = {
    level := profile.level, xp := profile.xp, equippedFormId := profile.equippedFormId
    caps := profile.caps, strStat := profile.strStat, perStat := profile.perStat
    endStat := profile.endStat, chaStat := profile.chaStat, intStat := profile.intStat
    agiStat := profile.agiStat, lukStat := profile.lukStat }
  appearance : shown.appearance = { sex := profile.sex, bodyPreset := profile.bodyPreset }
  itemCount : shown.itemCount = profile.itemCount
  items : ∀ i : Fin maxProfileRecords, i.val < profile.itemCount.toNat →
    shown.items i = profile.items i
  perkCount : shown.perkCount = profile.perkCount
  perks : ∀ i : Fin maxProfileRecords, i.val < profile.perkCount.toNat →
    shown.perks i = profile.perks i

theorem min_cap {count : UInt16} (within : count.toNat ≤ maxProfileRecords) : min count 16 = count :=
  if_pos (UInt16.le_iff_toNat_le.mpr within)

theorem proxySetProfileItems_shown {profile : PlayerProfile} (shown : ProxyProfileState)
    (i : Fin maxProfileRecords) (counted : i.val < profile.itemCount.toNat) :
    (proxySetProfileItems { itemCount := profile.itemCount }
      ((profileItemRecords profile).take profile.itemCount.toNat) shown).items i =
        profile.items i := by
  simp only [proxySetProfileItems, min_cap profile.itemCount_le, if_pos counted]
  simp [profileItemRecords, counted, List.getD_eq_getElem?_getD]

theorem proxySetProfilePerks_shown {profile : PlayerProfile} (shown : ProxyProfileState)
    (i : Fin maxProfileRecords) (counted : i.val < profile.perkCount.toNat) :
    (proxySetProfilePerks { perkCount := profile.perkCount }
      ((profilePerkRecords profile).take profile.perkCount.toNat) shown).perks i =
        profile.perks i := by
  simp only [proxySetProfilePerks, min_cap profile.perkCount_le, if_pos counted]
  simp [profilePerkRecords, counted, List.getD_eq_getElem?_getD]

theorem profilePosts_shown (connectionId : UInt32) (profile : PlayerProfile) (c : ClientState F Unit) :
    ∃ shown, ProfileShown profile shown ∧
      (profilePosts connectionId profile).foldl (applyPost defaultBackend connectionId) c =
        { c with profile := shown } := by
  simp only [profilePosts, List.foldl_cons, List.foldl_nil, applyPost, if_true, applyMessage]
  refine ⟨_, ?_, rfl⟩
  exact {
    loaded := rfl
    snapshot := rfl
    appearance := rfl
    itemCount := min_cap profile.itemCount_le
    items := proxySetProfileItems_shown _
    perkCount := min_cap profile.perkCount_le
    perks := proxySetProfilePerks_shown _ }

/-! ## Polls -/

section Polls
variable [WireFloat F]

omit [WireFloat F] in
theorem mlcbJoin_member {p : LiveClient F} (member : Member p) : mlcbJoin p = p := by
  rw [mlcbJoin, ← member, Bool.and_not_self, if_neg Bool.false_ne_true]

/-- What a tick leaves shown to a client that has joined. -/
theorem mlcbTick_shown (sockets : Sockets) (built : Option (MsgPlayerState F)) {p : LiveClient F}
    (member : Member p) (nothing : welcomeOf F sockets.received = none) :
    (mlcbTick sockets built p).2.shown = appliedBy sockets.received p.shown := by
  obtain ⟨shownIs, session⟩ := ptcPollOnce_effect sockets p.bridge.client p.shown
  rw [nothing] at session
  simp only [mlcbTick]
  generalize ptcPollOnce sockets p.bridge.client p.shown = polled at shownIs session
  obtain ⟨_ | applied, client, shown⟩ := polled
  · exact shownIs
  · have connected : client.connected = p.bridge.client.connected := congrArg Prod.fst session
    have still : Member { bridge := { p.bridge with client }, shown } := member.trans connected.symm
    obtain ⟨same, _⟩ := mlcbSend_frame sockets built applied
      (mlcbJoin { bridge := { p.bridge with client }, shown })
    exact same.trans ((congrArg LiveClient.shown (mlcbJoin_member still)).trans shownIs)

/-- What a tick that receives the WELCOME leaves shown. -/
theorem mlcbTick_welcomed (sockets : Sockets) (built : Option (MsgPlayerState F)) {p : LiveClient F}
    (unjoined : p.bridge.joined = false) {w : Body F .welcome}
    (welcome : welcomeOf F sockets.received = some w) :
    (mlcbTick sockets built p).2.shown = { p.shown with manager := rpmInit w.playerId } := by
  obtain ⟨shownIs, session⟩ := ptcPollOnce_effect sockets p.bridge.client p.shown
  rw [welcome] at session
  rw [(welcomeOf_some (c := p.shown) welcome).1] at shownIs
  simp only [mlcbTick]
  generalize ptcPollOnce sockets p.bridge.client p.shown = polled at shownIs session
  obtain ⟨_ | applied, client, shown⟩ := polled
  · cases session.1
  · have connected : client.connected = true := congrArg Prod.fst session.2
    have id : client.localPlayerId = w.playerId := congrArg Prod.snd session.2
    obtain rfl : shown = p.shown := shownIs
    refine (mlcbSend_frame sockets built applied _).1.trans ?_
    simp only [mlcbJoin, connected, unjoined, id, Bool.not_false, Bool.and_true, if_true]

/-- Ticks, each with what its sockets do and with the report that it has to send. -/
def tickCalls (ticks : List (Sockets × Option (MsgPlayerState F))) : List (LiveCall F) :=
  ticks.map fun tick => .tick tick.1 tick.2

def datagram? : Received → Option (List UInt8)
  | .datagram bytes => some bytes
  | _ => none

/-- The datagrams that the ticks receive. -/
def datagrams (ticks : List (Sockets × Option (MsgPlayerState F))) : List (List UInt8) :=
  ticks.filterMap fun tick => datagram? tick.1.received

omit [CFloat F] [WireFloat F] in
theorem datagrams_none {sockets : Sockets} (idle : datagram? sockets.received = none)
    (built : Option (MsgPlayerState F)) (ticks : List (Sockets × Option (MsgPlayerState F))) :
    datagrams ((sockets, built) :: ticks) = datagrams ticks := List.filterMap_cons_none idle

omit [CFloat F] [WireFloat F] in
theorem datagrams_some {sockets : Sockets} {bytes : List UInt8}
    (came : datagram? sockets.received = some bytes) (built : Option (MsgPlayerState F))
    (ticks : List (Sockets × Option (MsgPlayerState F))) :
    datagrams ((sockets, built) :: ticks) = bytes :: datagrams ticks :=
  List.filterMap_cons_some came

theorem mlcbTick_idle {sockets : Sockets} (idle : datagram? sockets.received = none)
    (built : Option (MsgPlayerState F)) {p : LiveClient F} (member : Member p) :
    let after := (mlcbTick sockets built p).2
    after.shown = p.shown ∧ after.bridge.joined = p.bridge.joined ∧
      after.bridge.client.membership = p.bridge.client.membership := by
  have nothing : welcomeOf F sockets.received = none ∧
      appliedBy sockets.received p.shown = p.shown := by
    cases came : sockets.received with
    | nothing => exact ⟨rfl, rfl⟩
    | failed => exact ⟨rfl, rfl⟩
    | datagram bytes =>
        rw [came] at idle
        cases idle
  have session := (mlcbTick_effect sockets built p).2
  rw [nothing.1] at session
  exact ⟨(mlcbTick_shown sockets built member nothing.1).trans nothing.2, session.2 member, session.1⟩

theorem datagram?_eq_some {received : Received} {bytes : List UInt8}
    (came : datagram? received = some bytes) : received = .datagram bytes := by
  cases received with
  | datagram bytes' => exact congrArg Received.datagram (Option.some.inj came)
  | _ => cases came

/-- A client that has joined applies the messages that come, whenever they come. -/
theorem tickCalls_apply [LawfulWireFloat F] {posts : List (Post F)}
    (sendable : ∀ p ∈ posts, Sendable p.type p.body) (noWelcome : ∀ p ∈ posts, p.type ≠ .welcome)
    {connectionId : UInt32} (addressed : ∀ p ∈ posts, p.connectionId = connectionId)
    {sessionId : SessionId} {sequence : UInt32} {ticks : List (Sockets × Option (MsgPlayerState F))}
    (receives : datagrams ticks = (stamp sessionId sequence posts).map (·.bytes))
    {process : LiveClient F} (member : Member process) (joined : process.bridge.joined = true) :
    let there := run liveStep process (tickCalls ticks)
    there.shown = posts.foldl (applyPost defaultBackend connectionId) process.shown ∧
      there.bridge.joined = true ∧
      there.bridge.client.membership = process.bridge.client.membership := by
  induction ticks generalizing sequence posts process with
  | nil =>
      cases posts with
      | nil => exact ⟨rfl, joined, rfl⟩
      | cons p posts => cases receives
  | cons tick ticks ih =>
      obtain ⟨sockets, built⟩ := tick
      have stays := liveStep_member process (.tick sockets built) member
      cases came : datagram? sockets.received with
      | none =>
          rw [datagrams_none came] at receives
          obtain ⟨shown, still, same⟩ := mlcbTick_idle came built member
          have rest := ih sendable noWelcome addressed receives stays (still.trans joined)
          rw [show (liveStep process (.tick sockets built)).shown = process.shown from shown] at rest
          exact ⟨rest.1, rest.2.1, rest.2.2.trans same⟩
      | some bytes =>
          rw [datagrams_some came] at receives
          cases posts with
          | nil => cases receives
          | cons p posts =>
              rw [List.forall_mem_cons] at sendable noWelcome addressed
              obtain ⟨first, rest⟩ := List.cons.inj receives
              have received : sockets.received =
                  .datagram (p.output sessionId (sequence + 1)).bytes := by
                rw [datagram?_eq_some came]
                exact congrArg Received.datagram first
              have nothing : welcomeOf F sockets.received = none := by
                rw [received, welcomeOf, messageOf?_output sendable.1, body?_other noWelcome.1]
              have shown := mlcbTick_shown sockets built member nothing
              have session := (mlcbTick_effect sockets built process).2
              rw [nothing] at session
              have carries := packetBytes_carries sendable.1 sessionId (sequence + 1) p.flags
              have applied : appliedBy sockets.received process.shown =
                  applyPost defaultBackend connectionId process.shown p := by
                rw [received, appliedBy, Post.output, pluginApplyPacket_carries carries, applyPost,
                  if_pos addressed.1]
              obtain ⟨after, joinedAfter, kept⟩ := ih sendable.2 noWelcome.2 addressed.2 rest
                stays ((session.2 member).trans joined)
              refine ⟨after.trans ?_, joinedAfter, kept.trans session.1⟩
              rw [List.foldl_cons, ← applied, ← shown]
              rfl

/-- The first datagram that comes is the WELCOME. -/
theorem tickCalls_welcomed {ticks : List (Sockets × Option (MsgPlayerState F))}
    {bytes : List UInt8} {rest : List (List UInt8)} (receives : datagrams ticks = bytes :: rest)
    {w : Body F .welcome} (welcome : messageOf? .welcome bytes = some w) {process : LiveClient F}
    (member : Member process) (unjoined : process.bridge.joined = false) :
    ∃ later greeted, run liveStep process (tickCalls ticks) = run liveStep greeted (tickCalls later) ∧
      datagrams later = rest ∧ greeted.shown = { process.shown with manager := rpmInit w.playerId } ∧
      greeted.bridge.joined = true ∧ greeted.bridge.client.membership = (true, w.playerId) := by
  induction ticks generalizing process with
  | nil => cases receives
  | cons tick ticks ih =>
      obtain ⟨sockets, built⟩ := tick
      cases came : datagram? sockets.received with
      | none =>
          rw [datagrams_none came] at receives
          obtain ⟨shown, still, same⟩ := mlcbTick_idle came built member
          obtain ⟨later, greeted, run_, left, welcomed⟩ := ih receives
            (liveStep_member process (.tick sockets built) member) (still.trans unjoined)
          rw [show (liveStep process (.tick sockets built)).shown = process.shown from shown] at welcomed
          exact ⟨later, greeted, run_, left, welcomed⟩
      | some datagram =>
          rw [datagrams_some came] at receives
          obtain ⟨rfl, left⟩ := List.cons.inj receives
          have hears : welcomeOf F sockets.received = some w := by
            rw [datagram?_eq_some came]
            exact welcome
          have joins := (mlcbTick_effect sockets built process).2
          rw [hears] at joins
          exact ⟨ticks, _, rfl, left, mlcbTick_welcomed sockets built unjoined hears, joins⟩

end Polls

/-! ## Joining -/

section Joining
variable [WireFloat F] [LawfulWireFloat F]

theorem serviceStep_statesOwned {s : ServiceState F} (inv : StatesOwned s) (e : ServiceEvent F) :
    StatesOwned (serviceStep s e) := by
  refine ⟨serviceStep_aligned inv.aligned e, ?_⟩
  cases e with
  | envelope store env => exact (transportStep_statesOwned inv (.network (.envelope store env))).owned
  | tick => exact (transportStep_statesOwned inv (.network .tick)).owned
  | spawnHostile baseFormId position =>
      obtain ⟨_, frame⟩ := spawnHostile_frame s baseFormId position
      rw [frame]
      exact inv.owned
  | popDialogueSelect =>
      obtain ⟨_, _, _, frame⟩ := popDialogueSelect_frame s
      rw [frame]
      exact inv.owned
  | allocSettlement settlementId center radius budget =>
      obtain ⟨_, frame⟩ := allocSettlement_frame s settlementId center radius budget
      rw [frame]
      exact inv.owned
  | host event =>
      obtain ⟨_, _, _, frame⟩ := hostStep_frame s event
      rw [serviceStep, frame]
      exact inv.owned
  | _ => exact inv.owned

omit [WireFloat F] [LawfulWireFloat F] in
theorem freshService_statesOwned (sessionId : SessionId) (rules : UInt32) (tickRate : UInt16)
    (whitelist : List UInt32) :
    StatesOwned (freshService sessionId rules tickRate whitelist : ServiceState F) :=
  ⟨freshService_aligned _ _ _ _, fun _ member => List.eq_of_mem_replicate member ▸ .inl rfl⟩

/-- What is queued for one connection. -/
def queuedFor (connectionId : UInt32) (outputs : List TransportOutput) : List (List UInt8) :=
  (outputs.filter (·.connectionId == connectionId)).map (·.bytes)

/-- The client is in the session under the id, and shows the profile and the world around the place. -/
structure ShowsSession (s : SessionState F) (id : PlayerId) (center : Vec3f F)
    (profile : PlayerProfile) (process : LiveClient F) : Prop where
  joined : process.bridge.joined = true
  membership : process.bridge.client.membership = (true, id)
  localPlayerId : process.shown.manager.localPlayerId = id
  profile : ProfileShown profile process.shown.profile
  world : ShowsWorld s id center process.shown

omit [CFloat F] [WireFloat F] [LawfulWireFloat F] in
theorem findPlayer_fillSeat (store : ProfileStore) (playerGuid playerName : Text)
    (connectionId : UInt32) {id : PlayerId} {taken : ServiceState F} {slot : PlayerRuntimeState F}
    (found : findPlayer taken.session id = some slot) :
    findPlayer (fillSeat store playerGuid playerName connectionId id taken).session id =
      some (fillSlot store playerGuid playerName connectionId taken.ctx.currentTick slot) := by
  refine Eq.trans (Slots.find?_modifyFirst_self ?_) (congrArg (Option.map _) found)
  exact fun _ held => held

/-- The WELCOME, and all that comes behind it. -/
theorem answer_shows {s : ServiceState F} (owned : StatesOwned s) (numbered : Numbered s)
    {id : PlayerId} (seated : id ≠ 0) {session : SessionState F} {connectionId : UInt32}
    {profile : PlayerProfile} {center : Vec3f F}
    (few : 5 + (snapshotPosts s.session connectionId id center).length ≤ maxOutputs)
    {sequence : UInt32} {ticks : List (Sockets × Option (MsgPlayerState F))}
    (sendable : ∀ p ∈ answerPosts session connectionId id profile ++
      snapshotPosts s.session connectionId id center, Sendable p.type p.body)
    (receives : datagrams ticks =
      (stamp session.sessionId sequence (answerPosts session connectionId id profile ++
        snapshotPosts s.session connectionId id center)).map (·.bytes))
    {process : LiveClient F} (member : Member process) (unjoined : process.bridge.joined = false)
    (blank : Blank process.shown) :
    ShowsSession s.session id center profile (run liveStep process (tickCalls ticks)) := by
  rw [answerPosts, List.cons_append, List.forall_mem_cons] at sendable
  have welcome : (messageOf? .welcome ((welcomePost session connectionId id).output
      session.sessionId (sequence + 1)).bytes : Option (Body F .welcome)) =
        some ⟨session.sessionId, id, session.tickRate, session.rules⟩ := by
    rw [messageOf?_output sendable.1]
    exact body?_same _ _ _ _
  obtain ⟨later, greeted, there, rest, welcomed, joins⟩ :=
    tickCalls_welcomed receives welcome member unjoined
  have profiles : ∀ p ∈ (profilePosts connectionId profile : List (Post F)),
      p.connectionId = connectionId ∧ p.type ≠ .welcome := by
    simp [profilePosts]
  have snapshot : ∀ p ∈ snapshotPosts s.session connectionId id center,
      profileMessage p.type = false ∧ p.type ≠ .welcome := by
    intro p listed
    simp only [snapshotPosts, List.mem_append, List.mem_map, List.mem_flatMap, List.mem_cons,
      List.not_mem_nil, or_false] at listed
    rcases listed with (⟨_, _, rfl⟩ | ⟨_, _, rfl | rfl⟩) | ⟨_, _, rfl⟩ <;>
      exact ⟨rfl, MessageType.noConfusion⟩
  obtain ⟨after, joined, kept⟩ := tickCalls_apply sendable.2
    (fun p listed => (List.mem_append.mp listed).elim (fun front => (profiles p front).2)
      fun back => (snapshot p back).2)
    (fun p listed => (List.mem_append.mp listed).elim (fun front => (profiles p front).1)
      snapshotPosts_addressed) rest (joins.1.trans (congrArg Prod.fst joins.2).symm) joins.1
  obtain ⟨shown, profileShown, profiled⟩ := profilePosts_shown connectionId profile greeted.shown
  rw [List.foldl_append, profiled] at after
  have size := snapshotPosts_length s.session connectionId id center
  rw [maxOutputs] at few
  have world := @snapshotPosts_shows F _ s id { greeted.shown with profile := shown } _ owned numbered
    seated connectionId center (by omega) (by omega)
    ⟨by rw [welcomed]; exact blank.players, by rw [welcomed]; exact blank.actors,
      by rw [welcomed]; exact blank.objects⟩ (by rw [welcomed]; rfl)
  rw [there]
  refine ⟨joined, kept.trans joins.2, ?_, ?_, ?_⟩
  · rw [after]
    refine applyPosts_keep (Q := fun c => c.manager.localPlayerId = id)
      (fun p _ c own => ?_) (by rw [welcomed]; rfl)
    rw [applyMessage_localPlayerId]
    exact own
  · rw [after, posts_profile fun p listed => (snapshot p listed).1]
    exact profileShown
  · rw [after]
    exact world

end Joining

end F4MP.System

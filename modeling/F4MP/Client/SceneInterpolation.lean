import F4MP.Client.SceneBackend
import F4MP.Library.Rational
import F4MP.Library.Transition

/-!
# Interpolation in the scene

Over exact rationals the pending flag of a slot says whether it has arrived at its target, and every
step brings it closer.
-/

namespace F4MP.Client
open SoftFloat CFloat Protocol Service Transition

/-! ## Slots -/

section Slot
variable {s : Fo4SceneProxyPlayerState ℚ}

theorem sameVec3_iff {a b : Vec3f ℚ} : sameVec3 a b = true ↔ a = b := by
  cases a
  cases b
  simp only [sameVec3, rat_eq, Bool.and_eq_true, decide_eq_true_eq, Vec3f.mk.injEq, and_assoc]

theorem sameRot3_iff {a b : Rot3f ℚ} : sameRot3 a b = true ↔ a = b := by
  cases a
  cases b
  simp only [sameRot3, rat_eq, Bool.and_eq_true, decide_eq_true_eq, Rot3f.mk.injEq, and_assoc]

theorem atTarget_iff : s.atTarget = true ↔
    s.presentedPosition = s.targetPosition ∧ s.presentedRotation = s.targetRotation := by
  rw [Fo4SceneProxyPlayerState.atTarget, Bool.and_eq_true, sameVec3_iff, sameRot3_iff]

/-- The pending flag is exact, and a slot that is visible is not despawned. -/
structure Fo4SceneProxyPlayerState.Settled (s : Fo4SceneProxyPlayerState ℚ) : Prop where
  pending : s.interpolationPending = !s.atTarget
  shown : s.visible = true → s.despawned = false

theorem spawned_settled (spec : ProxyPlayerSpawnSpec ℚ) (actorHandle : UInt64) :
    (Fo4SceneProxyPlayerState.spawned spec actorHandle).Settled where
  pending := by
    rw [atTarget_iff.mpr ⟨rfl, rfl⟩]
    rfl
  shown _ := rfl

theorem aim_settled (settled : s.Settled) (spec : ProxyPlayerUpdateSpec ℚ) (interpolates : Bool) :
    (s.aim spec interpolates).Settled := by
  simp only [Fo4SceneProxyPlayerState.aim]
  split
  · exact ⟨by rw [atTarget_iff.mpr ⟨rfl, rfl⟩]; rfl, settled.shown⟩
  · exact ⟨rfl, settled.shown⟩

theorem interpolate_settled (settled : s.Settled) (interp : Fo4SceneProxyInterpolationConfig ℚ) :
    (s.interpolate interp).Settled := ⟨rfl, settled.shown⟩

end Slot

/-! ## The scene -/

/-- What every call on the backend keeps. -/
structure SceneSettled (w : SceneWorld ℚ) : Prop where
  distinct : Slots.Distinct w.scene.players.slots
  slots : ∀ s ∈ w.scene.players.slots, s.Settled
  position : w.scene.interp.positionAlpha ∈ Set.Icc 0 1
  rotation : w.scene.interp.rotationAlpha ∈ Set.Icc 0 1

section Scene
variable {w w' : SceneWorld ℚ} {p : PlayerId}

theorem SceneSettled.of_same (settled : SceneSettled w)
    (players : w'.scene.players = w.scene.players) (interp : w'.scene.interp = w.scene.interp) :
    SceneSettled w' :=
  ⟨players ▸ settled.distinct, players ▸ settled.slots, interp ▸ settled.position,
    interp ▸ settled.rotation⟩

theorem SceneSettled.modify (settled : SceneSettled w)
    {f : Fo4SceneProxyPlayerState ℚ → Fo4SceneProxyPlayerState ℚ}
    (keeps : ∀ s, Slots.holds p s = true → Slots.holds p (f s) = true)
    (stays : ∀ s, s.Settled → (f s).Settled) : SceneSettled (w.modify p f) where
  distinct := settled.distinct.update keeps
  slots s member := by
    rcases Slots.mem_modifyFirst member with kept | ⟨t, listed, _, rfl⟩
    · exact settled.slots s kept
    · exact stays t (settled.slots t listed)
  position := settled.position
  rotation := settled.rotation

theorem SceneSettled.sync (settled : SceneSettled w) (p : PlayerId) :
    SceneSettled (syncSceneActorHandle p w) := by
  rw [syncSceneActorHandle]
  split
  · split
    · exact settled.modify (fun _ held => held) fun s stays => ⟨stays.pending, stays.shown⟩
    · exact settled
  · exact settled

theorem SceneSettled.applied (settled : SceneSettled w) (s : Fo4SceneProxyPlayerState ℚ)
    (spec : ProxyPlayerUpdateSpec ℚ) : SceneSettled (applyDriverPresentedState s spec w).2 := by
  simp only [applyDriverPresentedState]
  split
  · exact settled.of_same rfl rfl
  · split
    · exact settled.of_same rfl rfl
    · refine SceneSettled.sync ?_ s.playerId
      exact settled.of_same rfl rfl

theorem SceneSettled.spawned (settled : SceneSettled w) (spec : ProxyPlayerSpawnSpec ℚ) :
    SceneSettled (ensureScenePlayerFromSpawn spec w).2 := by
  simp only [ensureScenePlayerFromSpawn]
  split
  · exact settled
  · rename_i players stored
    have stored := Slots.Table.store_slots stored
    have taken : ∀ world : SceneWorld ℚ, world.scene.players = players →
        world.scene.interp = w.scene.interp → SceneSettled world := by
      rintro world same interp
      refine ⟨same ▸ settled.distinct.store stored rfl, fun s member => ?_,
        interp ▸ settled.position, interp ▸ settled.rotation⟩
      rw [same] at member
      rcases Slots.mem_store stored member with rfl | listed
      · exact spawned_settled spec _
      · exact settled.slots s listed
    split
    · refine SceneSettled.sync ?_ spec.playerId
      exact taken _ rfl rfl
    · exact taken _ rfl rfl

theorem SceneSettled.finish (settled : SceneSettled w)
    {f : UInt32 → Fo4SceneProxyPlayerState ℚ → Fo4SceneProxyPlayerState ℚ}
    (keeps : ∀ sequence s, Slots.holds p s = true → Slots.holds p (f sequence s) = true)
    (stays : ∀ sequence s, s.Settled → (f sequence s).Settled) : SceneSettled (w.finish p f) :=
  (settled.modify (keeps _) (stays _)).of_same rfl rfl

theorem SceneSettled.turn (settled : SceneSettled w) (i : Nat) :
    SceneSettled (sceneStepSlot w i) := by
  simp only [sceneStepSlot]
  split
  · exact settled
  · rename_i s at_
    split
    · exact settled
    · rename_i shown
      split
      · exact settled
      · have listed := List.mem_of_getElem? at_
        have inUse : s.inUse = true := by
          cases inUse : s.inUse with
          | true => rfl
          | false => simp [inUse] at shown
        obtain ⟨t, tIs⟩ : ∃ t, t = s.interpolate w.scene.interp := ⟨_, rfl⟩
        have moved : t.Settled := tIs ▸ interpolate_settled (settled.slots s listed) w.scene.interp
        have held : Slots.holds s.playerId t = true := tIs ▸ Slots.holds_iff.mpr ⟨inUse, rfl⟩
        have overwritten : SceneSettled (w.modify s.playerId fun _ => t) :=
          settled.modify (fun _ _ => held) fun _ _ => moved
        have applied := overwritten.applied t t.lastUpdate
        rw [← tIs, show t.playerId = s.playerId from tIs ▸ rfl]
        generalize applyDriverPresentedState t t.lastUpdate (w.modify s.playerId fun _ => t) =
          result at applied
        obtain ⟨_ | _, after⟩ := result
        · exact applied
        · exact applied.modify (fun _ held => held) fun s stays => ⟨stays.pending, stays.shown⟩

end Scene

/-! ## Steps -/

/-- What a step reads and writes of a slot, and what it leaves alone. -/
structure ScenePose where
  inUse : Bool
  playerId : PlayerId
  visible : Bool
  despawned : Bool
  lastUpdateTeleported : Bool
  targetPosition : Vec3f ℚ
  targetRotation : Rot3f ℚ
  presentedPosition : Vec3f ℚ
  presentedRotation : Rot3f ℚ

def Fo4SceneProxyPlayerState.pose (s : Fo4SceneProxyPlayerState ℚ) : ScenePose :=
  ⟨s.inUse, s.playerId, s.visible, s.despawned, s.lastUpdateTeleported, s.targetPosition,
    s.targetRotation, s.presentedPosition, s.presentedRotation⟩

def SceneWorld.poses (w : SceneWorld ℚ) : List ScenePose :=
  w.scene.players.slots.map Fo4SceneProxyPlayerState.pose

/-- A step moves this slot. -/
def Fo4SceneProxyPlayerState.moves (interp : Fo4SceneProxyInterpolationConfig ℚ)
    (s : Fo4SceneProxyPlayerState ℚ) : Bool :=
  s.inUse && s.visible && !s.despawned && interp.enabled && !s.lastUpdateTeleported

/-- The slot after a step, as far as it can be seen. -/
def Fo4SceneProxyPlayerState.turned (interp : Fo4SceneProxyInterpolationConfig ℚ)
    (s : Fo4SceneProxyPlayerState ℚ) : ScenePose :=
  if s.moves interp then (s.interpolate interp).pose else s.pose

theorem Fo4SceneProxyPlayerState.turned_congr {interp : Fo4SceneProxyInterpolationConfig ℚ}
    {s t : Fo4SceneProxyPlayerState ℚ} (same : t.pose = s.pose) :
    t.turned interp = s.turned interp := by
  cases s
  cases t
  simp only [pose, ScenePose.mk.injEq] at same
  obtain ⟨rfl, rfl, rfl, rfl, rfl, rfl, rfl, rfl, rfl⟩ := same
  rfl

section Step
variable {w w' : SceneWorld ℚ} {p : PlayerId}

theorem SceneWorld.poses_modify {f : Fo4SceneProxyPlayerState ℚ → Fo4SceneProxyPlayerState ℚ}
    (unseen : ∀ s, (f s).pose = s.pose) : (w.modify p f).poses = w.poses :=
  Slots.map_modifyFirst fun s _ => unseen s

theorem syncSceneActorHandle_poses (p : PlayerId) (w : SceneWorld ℚ) :
    (syncSceneActorHandle p w).poses = w.poses ∧
      (syncSceneActorHandle p w).scene.interp = w.scene.interp := by
  rw [syncSceneActorHandle]
  split
  · split
    · exact ⟨SceneWorld.poses_modify fun _ => rfl, rfl⟩
    · exact ⟨rfl, rfl⟩
  · exact ⟨rfl, rfl⟩

theorem applyDriverPresentedState_poses (s : Fo4SceneProxyPlayerState ℚ)
    (spec : ProxyPlayerUpdateSpec ℚ) (w : SceneWorld ℚ) :
    (applyDriverPresentedState s spec w).2.poses = w.poses ∧
      (applyDriverPresentedState s spec w).2.scene.interp = w.scene.interp := by
  simp only [applyDriverPresentedState]
  split
  · exact ⟨rfl, rfl⟩
  · split
    · exact ⟨rfl, rfl⟩
    · exact syncSceneActorHandle_poses s.playerId _

theorem sceneStepSlot_poses (distinct : Slots.Distinct w.scene.players.slots) (i : Nat) :
    (sceneStepSlot w i).scene.interp = w.scene.interp ∧ ∀ k, (sceneStepSlot w i).poses[k]? =
      (w.scene.players.slots[k]?).map fun s =>
        if k = i then s.turned w.scene.interp else s.pose := by
  have still : (∀ s, w.scene.players.slots[i]? = some s → s.moves w.scene.interp = false) → ∀ k,
      w.poses[k]? = (w.scene.players.slots[k]?).map fun s =>
        if k = i then s.turned w.scene.interp else s.pose := by
    intro rests k
    rw [SceneWorld.poses, List.getElem?_map]
    cases at_ : w.scene.players.slots[k]? with
    | none => rfl
    | some s =>
        simp only [Option.map_some]
        split
        · rename_i here
          rw [Fo4SceneProxyPlayerState.turned, rests s (here ▸ at_)]
          rfl
        · rfl
  simp only [sceneStepSlot]
  split
  · rename_i outside
    exact ⟨rfl, still fun s at_ => by rw [outside] at at_; cases at_⟩
  · rename_i s at_
    have alone : s.moves w.scene.interp = false → ∀ t, w.scene.players.slots[i]? = some t →
        t.moves w.scene.interp = false := fun rests t at_' => by
      obtain rfl := Option.some.inj (at_.symm.trans at_')
      exact rests
    split
    · rename_i hidden
      refine ⟨rfl, still (alone ?_)⟩
      simp only [Bool.or_eq_true, Bool.not_eq_true'] at hidden
      rcases hidden with (unused | hidden) | despawned <;> simp [Fo4SceneProxyPlayerState.moves, *]
    · rename_i shown
      split
      · rename_i off
        refine ⟨rfl, still (alone ?_)⟩
        simp only [Bool.or_eq_true, Bool.not_eq_true'] at off
        rcases off with disabled | teleported <;> simp [Fo4SceneProxyPlayerState.moves, *]
      · rename_i on
        have moves : s.moves w.scene.interp = true := by
          simpa [Fo4SceneProxyPlayerState.moves, and_assoc] using And.intro shown on
        have inUse : s.inUse = true := by
          simp only [Fo4SceneProxyPlayerState.moves, Bool.and_eq_true] at moves
          exact moves.1.1.1.1
        obtain ⟨t, tIs⟩ : ∃ t, t = s.interpolate w.scene.interp := ⟨_, rfl⟩
        rw [← tIs, show t.playerId = s.playerId from tIs ▸ rfl]
        have written : ∀ k, (w.modify s.playerId fun _ => t).poses[k]? =
            (w.scene.players.slots[k]?).map fun s =>
              if k = i then s.turned w.scene.interp else s.pose := by
          intro k
          have here : (w.modify s.playerId fun _ => t).scene.players.slots =
              w.scene.players.slots.modify i fun _ => t :=
            (Slots.modify_holds distinct at_ inUse _).symm
          rw [SceneWorld.poses, here, List.getElem?_map, List.getElem?_modify]
          by_cases same : i = k
          · subst same
            rw [at_]
            simp only [Option.map_some, if_true, Option.map_eq_map]
            rw [Fo4SceneProxyPlayerState.turned, if_pos moves, tIs]
          · simp only [if_neg same, if_neg (Ne.symm same), Option.map_eq_map, Option.map_id']
        have applied := applyDriverPresentedState_poses t t.lastUpdate
          (w.modify s.playerId fun _ => t)
        generalize applyDriverPresentedState t t.lastUpdate (w.modify s.playerId fun _ => t) =
          result at applied
        obtain ⟨_ | _, after⟩ := result
        · exact ⟨applied.2, fun k => (congrArg (·[k]?) applied.1).trans (written k)⟩
        · refine ⟨applied.2, fun k => ?_⟩
          rw [← written k, ← applied.1]
          exact congrArg (·[k]?) (SceneWorld.poses_modify fun _ => rfl)

theorem sceneStep_turns (settled : SceneSettled w) (n : Nat) :
    SceneSettled ((List.range n).foldl sceneStepSlot w) ∧
      ((List.range n).foldl sceneStepSlot w).scene.interp = w.scene.interp ∧
      ∀ k, ((List.range n).foldl sceneStepSlot w).poses[k]? =
        (w.scene.players.slots[k]?).map fun s =>
          if k < n then s.turned w.scene.interp else s.pose := by
  induction n with
  | zero =>
      refine ⟨settled, rfl, fun k => ?_⟩
      simp only [Nat.not_lt_zero, if_false]
      exact List.getElem?_map
  | succ n ih =>
      obtain ⟨settled', interp, poses⟩ := ih
      rw [List.range_succ, List.foldl_append, List.foldl_cons, List.foldl_nil]
      obtain ⟨interp', poses'⟩ := sceneStepSlot_poses settled'.distinct n
      refine ⟨settled'.turn n, interp'.trans interp, fun k => ?_⟩
      have before := poses k
      rw [SceneWorld.poses, List.getElem?_map] at before
      rw [poses' k, interp]
      generalize ((List.range n).foldl sceneStepSlot w).scene.players.slots[k]? = now at before
      cases at_ : w.scene.players.slots[k]? with
      | none =>
          rw [at_] at before
          rw [Option.map_eq_none_iff.mp before]
          rfl
      | some s =>
          rw [at_] at before
          obtain ⟨t, rfl, same⟩ := Option.map_eq_some_iff.mp before
          dsimp only at same
          simp only [Option.map_some]
          by_cases here : k = n
          · rw [if_neg (by omega)] at same
            rw [if_pos here, if_pos (by omega), Fo4SceneProxyPlayerState.turned_congr same]
          · rw [if_neg here, same]
            by_cases earlier : k < n
            · rw [if_pos earlier, if_pos (by omega)]
            · rw [if_neg earlier, if_neg (by omega)]

theorem SceneSettled.step (settled : SceneSettled w) : SceneSettled (sceneStep w) := by
  rw [sceneStep]
  exact (sceneStep_turns settled 8).1

/-- A step gives every slot its turn. -/
theorem sceneStep_poses (settled : SceneSettled w) {i : Nat} {s : Fo4SceneProxyPlayerState ℚ}
    (at_ : w.scene.players.slots[i]? = some s) :
    ∃ t, (sceneStep w).scene.players.slots[i]? = some t ∧ t.pose = s.turned w.scene.interp := by
  have inside : i < 8 := by
    obtain ⟨below, _⟩ := List.getElem?_eq_some_iff.mp at_
    exact Nat.lt_of_lt_of_le below w.scene.players.fits
  have poses := (sceneStep_turns settled 8).2.2 i
  rw [at_, Option.map_some, if_pos inside, SceneWorld.poses, List.getElem?_map] at poses
  obtain ⟨t, at_', turned⟩ := Option.map_eq_some_iff.mp poses
  rw [sceneStep]
  exact ⟨t, at_', turned⟩

end Step

/-! ## Calls -/

inductive SceneOp (F : Type) where
  | spawn (spec : ProxyPlayerSpawnSpec F)
  | update (spec : ProxyPlayerUpdateSpec F)
  | despawn (playerId : PlayerId)
  | note (playerId : PlayerId) (result : RemoteProxyUpdatePolicyResult F)
  | configure (cfg : Option (Fo4SceneProxyInterpolationConfig F))
  | step

/-- A call on the backend, whatever it returns. -/
def sceneOp {F : Type} [CFloat F] (remote : RemotePlayers F (SceneWorld F)) :
    SceneOp F → RemotePlayers F (SceneWorld F)
  | .spawn spec => (sceneSpawn spec remote).2
  | .update spec => (sceneUpdate spec remote).2
  | .despawn playerId => (sceneDespawn playerId remote).2
  | .note playerId result => { remote with user := scenePolicyResult playerId result remote.user }
  | .configure cfg => { remote with user := sceneSetInterpolationConfig cfg remote.user }
  | .step => { remote with user := sceneStep remote.user }

/-- `fo4_scene_proxy_backend_stub_install`, over any proxies and any driver. -/
def sceneInstalled {F : Type} [CFloat F] (players : PlayerProxies F) (driver : ActorDriver F)
    (contract : SpawnContract F) : RemotePlayers F (SceneWorld F) :=
  ⟨players, { scene := { interp := ⟨true, lit 1 4, lit 35 100⟩ }, driver, contract }⟩

section Calls
variable {w : SceneWorld ℚ} {remote : RemotePlayers ℚ (SceneWorld ℚ)}

theorem clamp01_mem (v : ℚ) : clamp01 v ∈ Set.Icc 0 1 := by
  simp only [clamp01, rat_lt, rat_lit, Set.mem_Icc]
  split
  · norm_num
  · split
    · norm_num
    · rename_i low high
      simp only [Int.cast_zero, Int.cast_one, Nat.cast_one, div_one, decide_eq_true_eq,
        not_lt] at low high
      exact ⟨low, high⟩

theorem SceneSettled.configure (settled : SceneSettled w)
    (cfg : Option (Fo4SceneProxyInterpolationConfig ℚ)) :
    SceneSettled (sceneSetInterpolationConfig cfg w) := by
  cases cfg with
  | none =>
      refine ⟨settled.distinct, settled.slots, ?_, ?_⟩ <;>
        simp only [sceneSetInterpolationConfig, rat_lit, Set.mem_Icc] <;> norm_num
  | some cfg => exact ⟨settled.distinct, settled.slots, clamp01_mem _, clamp01_mem _⟩

theorem SceneSettled.note (settled : SceneSettled w) (p : PlayerId)
    (result : RemoteProxyUpdatePolicyResult ℚ) : SceneSettled (scenePolicyResult p result w) := by
  have noted := settled.modify (p := p) (f := fun s =>
    let s := { s with
      lastUpdateTeleported := result.teleported
      lastUpdateSmoothedPosition := result.smoothedPosition
      lastUpdateSmoothedRotation := result.smoothedRotation
      lastUpdateSourceDistance := result.sourceDistance }
    if result.teleported then
      { s with
        presentedPosition := s.targetPosition
        presentedRotation := s.targetRotation
        interpolationPending := false }
    else { s with interpolationPending := !s.atTarget }) (fun s held => by
      dsimp only
      split <;> exact held) (fun s stays => by
      dsimp only
      split
      · exact ⟨by rw [atTarget_iff.mpr ⟨rfl, rfl⟩]; rfl, stays.shown⟩
      · exact ⟨rfl, stays.shown⟩)
  unfold scenePolicyResult
  dsimp only at noted ⊢
  generalize SceneWorld.modify (F := ℚ) p _ w = world at noted ⊢
  split
  · split
    · exact noted.applied _ _
    · exact noted
  · exact noted

theorem SceneSettled.slotFor (settled : SceneSettled w) (spec : ProxyPlayerUpdateSpec ℚ) :
    SceneSettled (sceneSlotFor spec w).2 := by
  rw [sceneSlotFor]
  split
  · exact settled
  · exact settled.spawned _

theorem sceneSpawn_settled (settled : SceneSettled remote.user) (spec : ProxyPlayerSpawnSpec ℚ) :
    SceneSettled (sceneSpawn spec remote).2.user := by
  have spawned := settled.spawned spec
  rw [sceneSpawn]
  generalize ensureScenePlayerFromSpawn spec remote.user = result at spawned
  obtain ⟨_ | _, w⟩ := result
  · exact spawned
  · dsimp only
    generalize proxySpawnPlayer spec remote.players = shown
    obtain ⟨_ | _, players⟩ := shown
    · exact spawned
    · refine SceneSettled.of_same (w := w.finish spec.playerId fun sequence s =>
        { s with lastCommand := .spawn, commandSequence := sequence }) ?_ rfl rfl
      exact spawned.finish (fun _ _ held => held) fun _ s stays => ⟨stays.pending, stays.shown⟩

theorem sceneUpdate_settled (settled : SceneSettled remote.user) (spec : ProxyPlayerUpdateSpec ℚ) :
    SceneSettled (sceneUpdate spec remote).2.user := by
  have slot := settled.slotFor spec
  rw [sceneUpdate]
  generalize sceneSlotFor spec remote.user = result at slot
  obtain ⟨_ | _, w⟩ := result
  · exact slot
  · have aimed : SceneSettled (w.modify spec.playerId (.aim spec w.scene.interp.enabled)) :=
      SceneSettled.modify slot
        (fun s held => by
          simp only [Fo4SceneProxyPlayerState.aim]
          split <;> exact held)
        fun s stays => aim_settled stays spec w.scene.interp.enabled
    dsimp only at aimed ⊢
    generalize w.modify spec.playerId (.aim spec w.scene.interp.enabled) = w at aimed
    generalize proxyUpdatePlayer spec remote.players = shown
    obtain ⟨_ | _, players⟩ := shown
    · exact aimed
    · dsimp only
      split
      · exact aimed
      · rename_i s found
        have applied := aimed.applied s spec
        generalize applyDriverPresentedState s spec w = result at applied
        obtain ⟨_ | _, w⟩ := result
        · exact applied
        · refine SceneSettled.of_same (w := w.finish spec.playerId fun sequence s => { s with
            transformApplyCount := s.transformApplyCount + 1
            lastCommand := .update
            commandSequence := sequence }) ?_ rfl rfl
          exact applied.finish (fun _ _ held => held) fun _ s stays => ⟨stays.pending, stays.shown⟩

theorem sceneDespawn_settled (settled : SceneSettled remote.user) (p : PlayerId) :
    SceneSettled (sceneDespawn p remote).2.user := by
  rw [sceneDespawn]
  split
  · exact settled
  · generalize proxyDespawnPlayer p remote.players = gone
    obtain ⟨_ | _, players⟩ := gone
    · exact settled
    · dsimp only
      generalize defaultDespawnActor p remote.user.driver = left
      obtain ⟨_ | _, driver⟩ := left
      · exact settled.of_same rfl rfl
      · have synced : SceneSettled (syncSceneActorHandle p { remote.user with driver }) := by
          refine SceneSettled.sync ?_ p
          exact settled.of_same rfl rfl
        dsimp only
        generalize syncSceneActorHandle p { remote.user with driver } = w at synced
        refine SceneSettled.of_same (w := w.finish p .hide) ?_ rfl rfl
        exact synced.finish (fun _ _ held => held) fun _ s stays => ⟨stays.pending, fun h => by cases h⟩

theorem sceneOp_settled (settled : SceneSettled remote.user) (op : SceneOp ℚ) :
    SceneSettled (sceneOp remote op).user := by
  cases op with
  | spawn spec => exact sceneSpawn_settled settled spec
  | update spec => exact sceneUpdate_settled settled spec
  | despawn p => exact sceneDespawn_settled settled p
  | note p result => exact settled.note p result
  | configure cfg => exact settled.configure cfg
  | step =>
      simp only [sceneOp]
      exact settled.step

/-- Whatever is called, the scene stays settled. -/
theorem run_settled (players : PlayerProxies ℚ) (driver : ActorDriver ℚ)
    (contract : SpawnContract ℚ) (ops : List (SceneOp ℚ)) :
    SceneSettled (run sceneOp (sceneInstalled players driver contract) ops).user := by
  have settles (remote : RemotePlayers ℚ (SceneWorld ℚ)) (op : SceneOp ℚ)
      (settled : SceneSettled remote.user) (_ : True) : SceneSettled (sceneOp remote op).user :=
    sceneOp_settled settled op
  refine run_invariant (P := fun _ _ => True) settles ?_ (along_always fun _ _ => trivial)
  refine ⟨.nil, fun s member => (List.not_mem_nil member).elim, ?_, ?_⟩ <;>
    simp only [sceneInstalled, rat_lit, Set.mem_Icc] <;> norm_num

end Calls

/-! ## What a step means -/

/-- A coordinate goes the part `alpha` of its way. -/
structure Approaches (alpha target before after : ℚ) : Prop where
  closer : after - target = (1 - alpha) * (before - target)
  between : after ∈ Set.uIcc before target

theorem lerpf_approaches {alpha : ℚ} (inside : alpha ∈ Set.Icc 0 1) (before target : ℚ) :
    Approaches alpha target before (lerpf before target alpha) := by
  obtain ⟨low, high⟩ := inside
  simp only [lerpf, rat_add, rat_mul, rat_sub]
  refine ⟨by ring, ?_⟩
  rcases le_total before target with up | down
  · rw [Set.uIcc_of_le up]
    constructor <;> nlinarith
  · rw [Set.uIcc_of_ge down]
    constructor <;> nlinarith

/-- What a step does to a slot. -/
structure Stepped (interp : Fo4SceneProxyInterpolationConfig ℚ)
    (s t : Fo4SceneProxyPlayerState ℚ) : Prop where
  player : t.inUse = s.inUse ∧ t.playerId = s.playerId
  target : t.targetPosition = s.targetPosition ∧ t.targetRotation = s.targetRotation
  approaches : s.visible = true → interp.enabled = true → s.lastUpdateTeleported = false →
    Approaches interp.positionAlpha s.targetPosition.x s.presentedPosition.x t.presentedPosition.x ∧
    Approaches interp.positionAlpha s.targetPosition.y s.presentedPosition.y t.presentedPosition.y ∧
    Approaches interp.positionAlpha s.targetPosition.z s.presentedPosition.z t.presentedPosition.z ∧
    Approaches interp.rotationAlpha s.targetRotation.pitch s.presentedRotation.pitch
      t.presentedRotation.pitch ∧
    Approaches interp.rotationAlpha s.targetRotation.yaw s.presentedRotation.yaw
      t.presentedRotation.yaw ∧
    Approaches interp.rotationAlpha s.targetRotation.roll s.presentedRotation.roll
      t.presentedRotation.roll
  rests : ¬(s.visible = true ∧ interp.enabled = true ∧ s.lastUpdateTeleported = false) →
    t.presentedPosition = s.presentedPosition ∧ t.presentedRotation = s.presentedRotation

/-- The pending flags are exact, and a step brings every slot closer that it moves. -/
structure Interpolates (w : SceneWorld ℚ) : Prop where
  pending : ∀ s ∈ w.scene.players.slots, s.inUse = true → (s.interpolationPending = true ↔
    s.presentedPosition ≠ s.targetPosition ∨ s.presentedRotation ≠ s.targetRotation)
  step : ∀ (i : Nat) s, w.scene.players.slots[i]? = some s → s.inUse = true →
    ∃ t, (sceneStep w).scene.players.slots[i]? = some t ∧ Stepped w.scene.interp s t

/-- The scene interpolates in every state that calls on a fresh backend lead to. -/
theorem run_interpolates (players : PlayerProxies ℚ) (driver : ActorDriver ℚ)
    (contract : SpawnContract ℚ) (ops : List (SceneOp ℚ)) :
    Interpolates (run sceneOp (sceneInstalled players driver contract) ops).user := by
  have settled := run_settled players driver contract ops
  generalize (run sceneOp (sceneInstalled players driver contract) ops).user = w at settled
  refine ⟨fun s listed _ => ?_, fun i s at_ inUse => ?_⟩
  · rw [(settled.slots s listed).pending, Bool.not_eq_true', ← Bool.not_eq_true, atTarget_iff,
      not_and_or]
  · obtain ⟨t, at_', turned⟩ := sceneStep_poses settled at_
    have shown := (settled.slots s (List.mem_of_getElem? at_)).shown
    refine ⟨t, at_', ?_⟩
    rw [Fo4SceneProxyPlayerState.turned] at turned
    split at turned
    · rename_i moves
      injection turned with used player _ _ _ targetPosition targetRotation position rotation
      refine ⟨⟨used, player⟩, ⟨targetPosition, targetRotation⟩, fun _ _ _ => ?_, fun rests => ?_⟩
      · rw [position, rotation]
        exact ⟨lerpf_approaches settled.position _ _, lerpf_approaches settled.position _ _,
          lerpf_approaches settled.position _ _, lerpf_approaches settled.rotation _ _,
          lerpf_approaches settled.rotation _ _, lerpf_approaches settled.rotation _ _⟩
      · simp only [Fo4SceneProxyPlayerState.moves, Bool.and_eq_true, Bool.not_eq_true'] at moves
        exact absurd ⟨moves.1.1.1.2, moves.1.2, moves.2⟩ rests
    · rename_i still
      injection turned with used player _ _ _ targetPosition targetRotation position rotation
      refine ⟨⟨used, player⟩, ⟨targetPosition, targetRotation⟩, fun visible enabled updated => ?_,
        fun _ => ⟨position, rotation⟩⟩
      refine absurd ?_ still
      simp [Fo4SceneProxyPlayerState.moves, inUse, visible, shown visible, enabled, updated]

end F4MP.Client

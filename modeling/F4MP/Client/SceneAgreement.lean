import F4MP.Client.SceneBackend
import F4MP.Client.PlayerProxy
import F4MP.Library.Transition

/-!
# Agreement of the proxy layers

The proxy records, the slots of the scene and the slots of the driver know the same live players, under
the same handles.
-/

namespace F4MP.Client
open SoftFloat CFloat Protocol Service Transition

variable {F : Type} [CFloat F]

/-! ## What the layers show -/

def Fo4SceneProxyPlayerState.seen (s : Fo4SceneProxyPlayerState F) : Bool × UInt64 :=
  (s.visible && !s.despawned, s.actorHandle)

/-- The actors of the scene. -/
def Scene.seen (scene : Scene F) : PlayerId → Option (Bool × UInt64) :=
  Slots.view Fo4SceneProxyPlayerState.seen scene.players.slots

/-- The scene and the driver know the same actors. -/
structure WorldAgreed (w : SceneWorld F) : Prop where
  scene : Slots.Distinct w.scene.players.slots
  driver : Slots.Distinct w.driver.players.slots
  same : w.driver.seen = w.scene.seen
  nobody : w.scene.seen 0 = none
  usual : w.contract.Default

/-- The worlds show the same actors, and give out handles from the same counter. -/
structure SceneWorld.LooksLike (w' w : SceneWorld F) : Prop where
  scene : w'.scene.seen = w.scene.seen
  driver : w'.driver.LooksLike w.driver
  distinct : Slots.Distinct w.scene.players.slots → Slots.Distinct w'.scene.players.slots
  nextHandle : w'.scene.nextHandle = w.scene.nextHandle
  contract : w'.contract = w.contract

section World
variable {w w' w'' : SceneWorld F} {p : PlayerId} {handle : UInt64}

omit [CFloat F] in
theorem SceneWorld.LooksLike.refl (w : SceneWorld F) : w.LooksLike w :=
  ⟨rfl, ⟨rfl, id⟩, id, rfl, rfl⟩

omit [CFloat F] in
theorem SceneWorld.LooksLike.trans (later : w''.LooksLike w') (first : w'.LooksLike w) :
    w''.LooksLike w where
  scene := later.scene.trans first.scene
  driver := ⟨later.driver.seen.trans first.driver.seen,
    fun distinct => later.driver.distinct (first.driver.distinct distinct)⟩
  distinct := fun distinct => later.distinct (first.distinct distinct)
  nextHandle := later.nextHandle.trans first.nextHandle
  contract := later.contract.trans first.contract

omit [CFloat F] in
theorem WorldAgreed.of_looksLike (agreed : WorldAgreed w) (looks : w'.LooksLike w) :
    WorldAgreed w' where
  scene := looks.distinct agreed.scene
  driver := looks.driver.distinct agreed.driver
  same := by rw [looks.driver.seen, looks.scene, agreed.same]
  nobody := by rw [looks.scene, agreed.nobody]
  usual := looks.contract ▸ agreed.usual

omit [CFloat F] in
theorem Scene.lookup_of_seen {scene : Scene F} {actor : Bool × UInt64}
    (known : scene.seen p = some actor) :
    ∃ s, Slots.lookup p scene.players.slots = some s ∧ s.seen = actor :=
  Option.map_eq_some_iff.mp known

omit [CFloat F] in
theorem Scene.held_of_seen {scene : Scene F} {actor : Bool × UInt64}
    (known : scene.seen p = some actor) :
    scene.players.slots.any (Slots.holds p) = true := by
  obtain ⟨s, found, _⟩ := Scene.lookup_of_seen known
  exact Slots.lookup_isSome_iff.mpr (found ▸ rfl)

omit [CFloat F] in
theorem SceneWorld.modify_looksLike
    {f : Fo4SceneProxyPlayerState F → Fo4SceneProxyPlayerState F}
    (keeps : ∀ s, Slots.holds p s = true → Slots.holds p (f s) = true)
    (unseen : ∀ s, (f s).seen = s.seen) : (w.modify p f).LooksLike w := by
  refine ⟨?_, ⟨rfl, id⟩, fun distinct => distinct.update keeps, rfl, rfl⟩
  refine (Slots.view_update (h := id) keeps unseen).trans ?_
  rw [Option.map_id, id]
  exact Function.update_eq_self _ _

omit [CFloat F] in
theorem SceneWorld.overwrite_looksLike {s : Fo4SceneProxyPlayerState F}
    (held : Slots.holds p s = true) (known : w.scene.seen p = some s.seen) :
    (w.modify p fun _ => s).LooksLike w := by
  have keeps : ∀ t : Fo4SceneProxyPlayerState F, Slots.holds p t = true → Slots.holds p s = true :=
    fun _ _ => held
  refine ⟨?_, ⟨rfl, id⟩, fun distinct => distinct.update keeps, rfl, rfl⟩
  refine (Slots.view_update (h := fun _ => s.seen) keeps fun _ => rfl).trans ?_
  refine Function.update_eq_self_iff.mpr ?_
  rw [show Slots.view _ _ p = some s.seen from known, Option.map_some]

omit [CFloat F] in
theorem syncSceneActorHandle_looksLike {live live' : Bool}
    (driver : w.driver.seen p = some (live, handle)) (scene : w.scene.seen p = some (live', handle)) :
    (syncSceneActorHandle p w).LooksLike w := by
  obtain ⟨s, found, seen⟩ := Option.map_eq_some_iff.mp driver
  have same : s.actorHandle = handle := congrArg Prod.snd seen
  simp only [syncSceneActorHandle, found]
  split
  · have keeps : ∀ t : Fo4SceneProxyPlayerState F, Slots.holds p t = true →
        Slots.holds p { t with actorHandle := s.actorHandle } = true := fun _ held => held
    refine ⟨?_, ⟨rfl, id⟩, fun distinct => distinct.update keeps, rfl, rfl⟩
    refine (Slots.view_update (h := fun actor => (actor.1, s.actorHandle)) keeps fun _ => rfl).trans ?_
    refine Function.update_eq_self_iff.mpr ?_
    rw [show Slots.view _ _ p = some (live', handle) from scene, Option.map_some, same]
  · exact .refl w

theorem applyDriverPresentedState_looksLike {s : Fo4SceneProxyPlayerState F}
    (driver : w.driver.seen s.playerId = some (true, s.actorHandle))
    (scene : w.scene.seen s.playerId = some (true, s.actorHandle)) (somebody : s.playerId ≠ 0)
    (spec : ProxyPlayerUpdateSpec F) :
    (applyDriverPresentedState s spec w).1 = true ∧
      (applyDriverPresentedState s spec w).2.LooksLike w := by
  obtain ⟨moves, moved⟩ := defaultMoveActor_live
    ⟨s.playerId, s.actorHandle, s.presentedPosition, spec.velocity, spec.stance,
      spec.animState, spec.equippedFormId⟩ driver somebody
  obtain ⟨turns, turned⟩ := defaultRotateActor_live
    ⟨s.playerId, s.actorHandle, s.presentedRotation⟩
    ((congrFun moved.seen s.playerId).trans driver) somebody
  simp only [applyDriverPresentedState, moves, turns, Bool.not_true, Bool.false_eq_true, if_false]
  have driven : ({ w with driver := (defaultRotateActor ⟨s.playerId, s.actorHandle,
      s.presentedRotation⟩ (defaultMoveActor ⟨s.playerId, s.actorHandle, s.presentedPosition,
        spec.velocity, spec.stance, spec.animState, spec.equippedFormId⟩ w.driver).2).2 } :
      SceneWorld F).LooksLike w :=
    ⟨rfl, ⟨turned.seen.trans moved.seen, fun distinct => turned.distinct (moved.distinct distinct)⟩,
      id, rfl, rfl⟩
  refine ⟨trivial, SceneWorld.LooksLike.trans ?_ driven⟩
  exact syncSceneActorHandle_looksLike
    ((congrFun driven.driver.seen s.playerId).trans driver) scene

omit [CFloat F] in
theorem WorldAgreed.live (agreed : WorldAgreed w) {s : Fo4SceneProxyPlayerState F}
    (known : w.scene.seen s.playerId = some (true, s.actorHandle)) :
    w.driver.seen s.playerId = some (true, s.actorHandle) ∧ s.playerId ≠ 0 := by
  refine ⟨(congrFun agreed.same _).trans known, fun zero => ?_⟩
  rw [zero, agreed.nobody] at known
  cases known

theorem applyDriverPresentedState_agreed (agreed : WorldAgreed w) {s : Fo4SceneProxyPlayerState F}
    (known : w.scene.seen s.playerId = some (true, s.actorHandle)) (spec : ProxyPlayerUpdateSpec F) :
    (applyDriverPresentedState s spec w).1 = true ∧
      (applyDriverPresentedState s spec w).2.LooksLike w :=
  applyDriverPresentedState_looksLike (agreed.live known).1 known (agreed.live known).2 spec

/-! ## Steps and notes -/

theorem scenePolicyResult_looksLike (agreed : WorldAgreed w)
    (known : w.scene.seen p = some (true, handle)) (result : RemoteProxyUpdatePolicyResult F) :
    (scenePolicyResult p result w).LooksLike w := by
  unfold scenePolicyResult
  extract_lets noted
  have looks : noted.LooksLike w := by
    refine SceneWorld.modify_looksLike (fun s held => ?_) fun s => ?_
    · refine Slots.holds_iff.mpr ?_
      split <;> exact Slots.holds_iff.mp held
    · split <;> rfl
  have known' := (congrFun looks.scene p).trans known
  obtain ⟨s, found, seen⟩ := Scene.lookup_of_seen known'
  obtain ⟨_, key⟩ := Slots.lookup_key found
  obtain rfl : s.playerId = p := key
  have handleIs : s.actorHandle = handle := congrArg Prod.snd seen
  simp only [found]
  split
  · refine SceneWorld.LooksLike.trans ?_ looks
    exact (applyDriverPresentedState_agreed (agreed.of_looksLike looks) (handleIs ▸ known')
      s.lastUpdate).2
  · exact looks

theorem sceneStepSlot_looksLike (agreed : WorldAgreed w) (i : Nat) :
    (sceneStepSlot w i).LooksLike w := by
  unfold sceneStepSlot
  split
  · exact .refl w
  · rename_i s at_
    split
    · exact .refl w
    · rename_i shown
      split
      · exact .refl w
      · obtain ⟨inUse, visible, kept⟩ : s.inUse = true ∧ s.visible = true ∧ s.despawned = false := by
          simpa [and_assoc] using shown
        have found := Slots.lookup_of_mem agreed.scene (List.mem_of_getElem? at_) inUse
        have seen : s.seen = (true, s.actorHandle) := by
          rw [Fo4SceneProxyPlayerState.seen, visible, kept]
          rfl
        have known : w.scene.seen s.playerId = some (true, s.actorHandle) :=
          Option.map_eq_some_iff.mpr ⟨s, found, seen⟩
        obtain ⟨t, tIs⟩ : ∃ t, t = s.interpolate w.scene.interp := ⟨_, rfl⟩
        have looks : (w.modify s.playerId fun _ => t).LooksLike w :=
          SceneWorld.overwrite_looksLike (tIs ▸ Slots.holds_iff.mpr ⟨inUse, rfl⟩)
            (tIs ▸ known.trans (congrArg some seen.symm))
        have known' : (w.modify s.playerId fun _ => t).scene.seen t.playerId =
            some (true, t.actorHandle) := by
          rw [looks.scene, tIs]
          exact known
        obtain ⟨applied, looks'⟩ :=
          applyDriverPresentedState_agreed (agreed.of_looksLike looks) known' t.lastUpdate
        dsimp only
        rw [← tIs, show t.playerId = s.playerId from tIs ▸ rfl]
        generalize applyDriverPresentedState t t.lastUpdate (w.modify s.playerId fun _ => t) =
          result at applied looks'
        obtain ⟨_ | _, w'⟩ := result
        · cases applied
        · refine SceneWorld.LooksLike.trans ?_ (looks'.trans looks)
          exact SceneWorld.modify_looksLike (fun _ held => held) fun _ => rfl

theorem sceneStep_looksLike (agreed : WorldAgreed w) : (sceneStep w).LooksLike w := by
  have fold : ∀ indices : List Nat, (indices.foldl sceneStepSlot w).LooksLike w := by
    intro indices
    induction indices using List.reverseRecOn with
    | nil => exact .refl w
    | append_singleton front i ih =>
        rw [List.foldl_append, List.foldl_cons, List.foldl_nil]
        exact (sceneStepSlot_looksLike (agreed.of_looksLike ih) i).trans ih
  exact fold _

/-! ## Spawns -/

omit [CFloat F] in
theorem syncSceneActorHandle_takes {live live' : Bool} {handle' : UInt64}
    (driver : w.driver.seen p = some (live, handle)) (scene : w.scene.seen p = some (live', handle'))
    (zero : handle = 0 → handle' = 0) :
    (syncSceneActorHandle p w).scene.seen = Function.update w.scene.seen p (some (live', handle)) ∧
      (syncSceneActorHandle p w).driver = w.driver ∧
      (syncSceneActorHandle p w).contract = w.contract ∧
      (syncSceneActorHandle p w).scene.nextHandle = w.scene.nextHandle ∧
      (Slots.Distinct w.scene.players.slots →
        Slots.Distinct (syncSceneActorHandle p w).scene.players.slots) := by
  obtain ⟨s, found, seen⟩ := Option.map_eq_some_iff.mp driver
  have same : s.actorHandle = handle := congrArg Prod.snd seen
  simp only [syncSceneActorHandle, found, same]
  split
  · have keeps : ∀ t : Fo4SceneProxyPlayerState F, Slots.holds p t = true →
        Slots.holds p { t with actorHandle := handle } = true := fun _ held => held
    refine ⟨?_, rfl, rfl, rfl, fun distinct => distinct.update keeps⟩
    refine (Slots.view_update (h := fun actor => (actor.1, handle)) keeps fun _ => rfl).trans ?_
    rw [show Slots.view _ _ p = some (live', handle') from scene, Option.map_some]
    rfl
  · rename_i none
    have none : handle = 0 := not_not.mp none
    refine ⟨?_, rfl, rfl, rfl, id⟩
    rw [none, ← zero none, ← scene, Function.update_eq_self]

omit [CFloat F] in
theorem WorldAgreed.driver_room (agreed : WorldAgreed w)
    (room : (Slots.lookup p w.scene.players.slots).isSome ∨
      w.scene.players.slots.countP Slots.Slot.live < 8) :
    (Slots.lookup p w.driver.players.slots).isSome ∨
      w.driver.players.slots.countP Slots.Slot.live < 8 := by
  have known (q : PlayerId) : (Slots.lookup q w.driver.players.slots).isSome ↔
      (Slots.lookup q w.scene.players.slots).isSome := by
    have same := congrArg Option.isSome (congrFun agreed.same q)
    rw [ActorDriver.seen, Scene.seen, Slots.view, Slots.view, Option.isSome_map,
      Option.isSome_map] at same
    rw [same]
  rw [known, Slots.countP_live_eq agreed.driver agreed.scene known]
  exact room

/-- A player gets a slot in the scene and in the driver, or nothing happens. -/
theorem ensureScenePlayerFromSpawn_cases (agreed : WorldAgreed w) {spec : ProxyPlayerSpawnSpec F}
    (somebody : spec.playerId ≠ 0) :
    ensureScenePlayerFromSpawn spec w = (false, w) ∧ w.scene.seen spec.playerId = none ∨
      ∃ w' handle, ensureScenePlayerFromSpawn spec w = (true, w') ∧ WorldAgreed w' ∧
        w'.scene.seen = Function.update w.scene.seen spec.playerId (some (true, handle)) ∧
        w'.scene.nextHandle = w.scene.nextHandle + 1 ∧
        (w.scene.nextHandle + 1 ≠ 0 → handle = w.scene.nextHandle + 1) := by
  cases stored : w.scene.players.store (.spawned spec (w.scene.nextHandle + 1)) with
  | none =>
      refine .inl ⟨by simp only [ensureScenePlayerFromSpawn, stored], ?_⟩
      by_contra known
      obtain ⟨actor, known⟩ := Option.ne_none_iff_exists'.mp known
      obtain ⟨s, found, _⟩ := Scene.lookup_of_seen known
      have stores : (w.scene.players.store (.spawned spec (w.scene.nextHandle + 1))).isSome :=
        Slots.Table.store_isSome_iff.mpr (.inl (found ▸ rfl))
      rw [stored] at stores
      cases stores
  | some players =>
      have room := Slots.Table.store_isSome_iff.mp (Option.isSome_iff_exists.mpr ⟨players, stored⟩)
      have slots := Slots.Table.store_slots stored
      obtain ⟨contract, driver, spawns, usual, driven, distinct⟩ :=
        fpascSpawnViaDriver_room agreed.usual somebody (agreed.driver_room room)
          (w.scene.nextHandle + 1)
      have staged := Slots.view_store (g := Fo4SceneProxyPlayerState.seen) slots rfl
      obtain ⟨handle, handleIs⟩ :
        ∃ handle, handle = (w.driver.takeHandle (w.scene.nextHandle + 1)).1 := ⟨_, rfl⟩
      rw [← handleIs] at driven
      have given : w.scene.nextHandle + 1 ≠ 0 → handle = w.scene.nextHandle + 1 := fun some => by
        rw [handleIs, ActorDriver.takeHandle, if_pos some]
      obtain ⟨w₁, w₁Is⟩ : ∃ w₁ : SceneWorld F, w₁ =
        ⟨{ w.scene with players, nextHandle := w.scene.nextHandle + 1 }, driver, contract⟩ := ⟨_, rfl⟩
      have ensured : ensureScenePlayerFromSpawn spec w =
          (true, syncSceneActorHandle spec.playerId w₁) := by
        simp only [ensureScenePlayerFromSpawn, stored, spawns, w₁Is, if_true]
      have scene₁ : w₁.scene.seen = Function.update w.scene.seen spec.playerId
          (some (true, w.scene.nextHandle + 1)) := w₁Is ▸ staged
      have driver₁ : w₁.driver.seen = Function.update w.driver.seen spec.playerId
          (some (true, handle)) := w₁Is ▸ driven
      obtain ⟨seen, sameDriver, sameContract, sameNext, distinct'⟩ := syncSceneActorHandle_takes
        ((congrFun driver₁ spec.playerId).trans (Function.update_self _ _ _))
        ((congrFun scene₁ spec.playerId).trans (Function.update_self _ _ _))
        (fun zero => by_contra fun some => some ((given some).symm.trans zero))
      rw [scene₁, Function.update_idem] at seen
      refine .inr ⟨_, handle, ensured, ⟨?_, ?_, ?_, ?_, ?_⟩, seen, ?_, given⟩
      · exact distinct' (w₁Is ▸ agreed.scene.store slots rfl)
      · rw [sameDriver, w₁Is]
        exact distinct agreed.driver
      · rw [seen, sameDriver, driver₁, agreed.same]
      · rw [seen, Function.update_of_ne (Ne.symm somebody), agreed.nobody]
      · rw [sameContract, w₁Is]
        exact usual
      · rw [sameNext, w₁Is]

end World

/-! ## All three layers -/

/-- The layers agree, and the proxy records are those of the live players. -/
structure Agreed (remote : RemotePlayers F (SceneWorld F)) : Prop where
  world : WorldAgreed remote.user
  players : Slots.Distinct remote.players.slots
  shown : ∀ p, (Slots.lookup p remote.players.slots).isSome ↔
    ∃ handle, remote.user.scene.seen p = some (true, handle)

section Layers
variable {remote : RemotePlayers F (SceneWorld F)} {w : SceneWorld F} {p : PlayerId}

omit [CFloat F] in
theorem Agreed.of_looksLike (agreed : Agreed remote) (looks : w.LooksLike remote.user)
    {players : PlayerProxies F} (distinct : Slots.Distinct players.slots)
    (same : ∀ p, (Slots.lookup p players.slots).isSome =
      (Slots.lookup p remote.players.slots).isSome) : Agreed ⟨players, w⟩ where
  world := agreed.world.of_looksLike looks
  players := distinct
  shown p := by rw [same, agreed.shown, looks.scene]

omit [CFloat F] in
theorem Agreed.hasRoom (agreed : Agreed remote) (absent : Slots.lookup p remote.players.slots = none)
    {handle : UInt64} (placed : w.scene.seen =
      Function.update remote.user.scene.seen p (some (true, handle))) :
    PlayerProxies.HasRoom remote.players := by
  have inScene : ∀ q ∈ p :: Slots.keys remote.players.slots, q ∈ Slots.keys w.scene.players.slots := by
    intro q listed
    rw [Slots.mem_keys_iff, ← Option.isSome_map (f := Fo4SceneProxyPlayerState.seen)]
    show (w.scene.seen q).isSome = true
    rw [placed, Function.update_apply]
    split
    · rfl
    · rename_i other
      rcases List.mem_cons.mp listed with same | known
      · exact absurd same other
      · obtain ⟨handle', live⟩ := (agreed.shown q).mp (Slots.mem_keys_iff.mp known)
        rw [live]
        rfl
  have fresh : p ∉ Slots.keys remote.players.slots := by
    rw [Slots.mem_keys_iff, absent]
    exact Bool.false_ne_true
  have nodup := List.nodup_cons.mpr ⟨fresh, agreed.players.nodup_keys⟩
  have count := (nodup.subperm inScene).length_le
  have slots : (Slots.keys w.scene.players.slots).length ≤ 8 := by
    rw [Slots.keys, List.length_map]
    exact (List.length_filter_le _ _).trans w.scene.players.fits
  rw [List.length_cons] at count
  rw [PlayerProxies.HasRoom, List.countP_eq_length_filter]
  rw [Slots.keys, List.length_map] at count
  exact lt_of_lt_of_le (Nat.lt_of_succ_le count) slots

theorem proxySpawnPlayer_room (spec : ProxyPlayerSpawnSpec F) {players : PlayerProxies F}
    (room : PlayerProxies.HasRoom players) : ∃ after, proxySpawnPlayer spec players = (true, after) ∧
      (Slots.Distinct players.slots → Slots.Distinct after.slots) ∧
      ∀ q, (Slots.lookup q after.slots).isSome =
        (decide (q = spec.playerId) || (Slots.lookup q players.slots).isSome) := by
  have done : (proxySpawnPlayer spec players).1 = true := proxySpawnPlayer_done.mpr (.inr room)
  simp only [proxySpawnPlayer] at done ⊢
  split at done
  · rename_i after stored
    have slots := Slots.Table.store_slots stored
    refine ⟨after, rfl, fun distinct => distinct.store slots rfl, fun q => ?_⟩
    have looked := Slots.lookup_store slots rfl q
    by_cases same : q = spec.playerId
    · rw [looked.trans (if_pos same), decide_eq_true same]
      rfl
    · rw [looked.trans (if_neg same), decide_eq_false same, Bool.false_or]
  · cases done

/-- A spawn through the scene shows the player in every layer, or nothing happens. -/
theorem sceneSpawn_cases (agreed : Agreed remote) (spec : ProxyPlayerSpawnSpec F)
    (somebody : spec.playerId ≠ 0) (absent : Slots.lookup spec.playerId remote.players.slots = none) :
    sceneSpawn spec remote = (false, remote) ∧ remote.user.scene.seen spec.playerId = none ∨
      ∃ after handle, sceneSpawn spec remote = (true, after) ∧ Agreed after ∧
        (Slots.lookup spec.playerId after.players.slots).isSome ∧
        after.user.scene.seen =
          Function.update remote.user.scene.seen spec.playerId (some (true, handle)) ∧
        after.user.scene.nextHandle = remote.user.scene.nextHandle + 1 ∧
        (remote.user.scene.nextHandle + 1 ≠ 0 → handle = remote.user.scene.nextHandle + 1) := by
  rcases ensureScenePlayerFromSpawn_cases agreed.world somebody with
    ⟨nothing, new⟩ | ⟨w, handle, ensured, world, seen, next, given⟩
  · exact .inl ⟨by simp only [sceneSpawn, nothing], new⟩
  · obtain ⟨players, spawned, distinct, looked⟩ :=
      proxySpawnPlayer_room spec (agreed.hasRoom absent seen)
    obtain ⟨w', spawns, looks⟩ : ∃ w' : SceneWorld F, sceneSpawn spec remote = (true, ⟨players, w'⟩) ∧
        w'.LooksLike w := by
      simp only [sceneSpawn, ensured, spawned]
      refine ⟨_, rfl, ?_⟩
      have looks : (w.modify spec.playerId fun s =>
          { s with lastCommand := .spawn, commandSequence := w.scene.totalCommandSequence + 1 }).LooksLike
            w := SceneWorld.modify_looksLike (fun _ held => held) fun _ => rfl
      exact ⟨looks.scene, looks.driver, looks.distinct, looks.nextHandle, looks.contract⟩
    have seen' := looks.scene.trans seen
    refine .inr ⟨⟨players, w'⟩, handle, spawns,
      ⟨world.of_looksLike looks, distinct agreed.players, fun q => ?_⟩, ?_, seen',
      looks.nextHandle.trans next, given⟩
    · rw [looked, seen', Function.update_apply]
      by_cases same : q = spec.playerId
      · rw [if_pos same, decide_eq_true same, Bool.true_or]
        exact iff_of_true rfl ⟨handle, rfl⟩
      · rw [if_neg same, decide_eq_false same, Bool.false_or]
        exact agreed.shown q
    · rw [looked, decide_eq_true rfl, Bool.true_or]

omit [CFloat F] in
theorem proxyUpdatePlayer_held {spec : ProxyPlayerUpdateSpec F} {players : PlayerProxies F}
    (held : (Slots.lookup spec.playerId players.slots).isSome) :
    ∃ after, proxyUpdatePlayer spec players = (true, after) ∧
      (Slots.Distinct players.slots → Slots.Distinct after.slots) ∧
      ∀ q, (Slots.lookup q after.slots).isSome = (Slots.lookup q players.slots).isSome := by
  refine ⟨_, Prod.ext (Slots.lookup_isSome_iff.mpr held) rfl, fun distinct => ?_, fun q => ?_⟩
  · exact distinct.update (by exact fun _ held => held)
  · exact lookup_modifyFirst_isSome (by exact fun _ held => held)

theorem sceneUpdate_shown (agreed : Agreed remote) (spec : ProxyPlayerUpdateSpec F)
    (shown : (Slots.lookup spec.playerId remote.players.slots).isSome) :
    ∃ after, sceneUpdate spec remote = (true, after) ∧ Agreed after ∧
      after.user.LooksLike remote.user ∧
      ∀ q, (Slots.lookup q after.players.slots).isSome =
        (Slots.lookup q remote.players.slots).isSome := by
  obtain ⟨handle, live⟩ := (agreed.shown _).mp shown
  obtain ⟨players, updated, distinct, looked⟩ := proxyUpdatePlayer_held shown
  have frame (interpolates : Bool) (s : Fo4SceneProxyPlayerState F) :
      (s.aim spec interpolates).inUse = s.inUse ∧ (s.aim spec interpolates).playerId = s.playerId ∧
        (s.aim spec interpolates).seen = s.seen := by
    unfold Fo4SceneProxyPlayerState.aim
    dsimp only
    split <;> exact ⟨rfl, rfl, rfl⟩
  obtain ⟨w, wIs⟩ : ∃ w, w = remote.user.modify spec.playerId
    (.aim spec remote.user.scene.interp.enabled) := ⟨_, rfl⟩
  have aimed : w.LooksLike remote.user := by
    rw [wIs]
    refine SceneWorld.modify_looksLike (fun s held => ?_) fun s => (frame _ s).2.2
    obtain ⟨inUse, key⟩ := Slots.holds_iff.mp held
    exact Slots.holds_iff.mpr ⟨(frame _ s).1.trans inUse, (frame _ s).2.1.trans key⟩
  have live' := (congrFun aimed.scene spec.playerId).trans live
  obtain ⟨s, found, seen⟩ := Scene.lookup_of_seen live'
  have key : s.playerId = spec.playerId := (Slots.lookup_key found).2
  have handleIs : s.actorHandle = handle := congrArg Prod.snd seen
  obtain ⟨applied, applies⟩ := applyDriverPresentedState_agreed (agreed.world.of_looksLike aimed)
    (s := s) (key.symm ▸ handleIs.symm ▸ live') spec
  have slot : sceneSlotFor spec remote.user = (true, remote.user) :=
    if_pos (Scene.held_of_seen live)
  obtain ⟨w', updates, looks⟩ : ∃ w' : SceneWorld F, sceneUpdate spec remote = (true, ⟨players, w'⟩) ∧
      w'.LooksLike w := by
    simp only [sceneUpdate, slot, ← wIs, updated, found]
    generalize applyDriverPresentedState s spec w = result at applied applies
    obtain ⟨_ | _, w''⟩ := result
    · cases applied
    · refine ⟨_, rfl, ?_⟩
      have looks : (w''.modify spec.playerId fun s => { s with
          transformApplyCount := s.transformApplyCount + 1
          lastCommand := .update
          commandSequence := w''.scene.totalCommandSequence + 1 }).LooksLike w'' :=
        SceneWorld.modify_looksLike (fun _ held => held) fun _ => rfl
      refine SceneWorld.LooksLike.trans ?_ applies
      exact ⟨looks.scene, looks.driver, looks.distinct, looks.nextHandle, looks.contract⟩
  exact ⟨⟨players, w'⟩, updates,
    agreed.of_looksLike (looks.trans aimed) (distinct agreed.players) looked, looks.trans aimed, looked⟩

theorem proxyDespawnPlayer_absent {players : PlayerProxies F}
    (absent : Slots.lookup p players.slots = none) :
    proxyDespawnPlayer p players = (false, players) := by
  refine Prod.ext ?_ ?_
  · rw [proxyDespawnPlayer, ← Bool.not_eq_true, Slots.lookup_isSome_iff, absent]
    exact Bool.false_ne_true
  · obtain ⟨slots, fits⟩ := players
    simp only [proxyDespawnPlayer, Slots.Table.modifyFirst, Slots.modifyFirst_of_none absent]

omit [CFloat F] in
theorem SceneWorld.finish_hide {live : Bool} {handle : UInt64}
    (known : w.scene.seen p = some (live, handle)) :
    (w.finish p .hide).scene.seen = Function.update w.scene.seen p (some (false, handle)) ∧
      (Slots.Distinct w.scene.players.slots →
        Slots.Distinct (w.finish p .hide).scene.players.slots) := by
  have keeps : ∀ (n : UInt32) (s : Fo4SceneProxyPlayerState F), Slots.holds p s = true →
      Slots.holds p (s.hide n) = true := fun _ _ held => held
  refine ⟨?_, fun distinct => distinct.update (keeps _)⟩
  refine (Slots.view_update (h := fun actor => (false, actor.2)) (keeps _) fun _ => rfl).trans ?_
  rw [show Slots.view _ _ p = some (live, handle) from known, Option.map_some]
  rfl

/-- A removal through the scene hides the player in every layer, or nothing happens. -/
theorem sceneDespawn_cases (agreed : Agreed remote) (p : PlayerId) :
    (sceneDespawn p remote).2 = remote ∧ Slots.lookup p remote.players.slots = none ∨
      ∃ after handle, sceneDespawn p remote = (true, after) ∧ Agreed after ∧
        remote.user.scene.seen p = some (true, handle) ∧
        after.user.scene.seen =
          Function.update remote.user.scene.seen p (some (false, handle)) ∧
        after.user.scene.nextHandle = remote.user.scene.nextHandle := by
  cases held : remote.user.scene.players.slots.any (Slots.holds p) with
  | false =>
      refine .inl ⟨by rw [sceneDespawn, held]; rfl, ?_⟩
      rw [← Option.not_isSome_iff_eq_none, agreed.shown p]
      rintro ⟨handle, live⟩
      exact Bool.false_ne_true (held.symm.trans (Scene.held_of_seen live))
  | true =>
      cases record : Slots.lookup p remote.players.slots with
      | none =>
          refine .inl ⟨?_, rfl⟩
          simp only [sceneDespawn, held, proxyDespawnPlayer_absent record, Bool.not_true,
            Bool.false_eq_true, if_false]
      | some shown =>
          obtain ⟨handle, live⟩ := (agreed.shown p).mp (record ▸ rfl)
          have somebody : p ≠ 0 := by
            rintro rfl
            cases live.symm.trans agreed.world.nobody
          have driven := (congrFun agreed.world.same p).trans live
          obtain ⟨despawns, driverSeen, driverDistinct⟩ :=
            defaultDespawnActor_known driven somebody
          have despawned : defaultDespawnActor p remote.user.driver =
              (true, (defaultDespawnActor p remote.user.driver).2) := Prod.ext despawns rfl
          have removed : proxyDespawnPlayer p remote.players =
              (true, remote.players.modifyFirst (Slots.holds p) fun _ => .zero) :=
            Prod.ext (Slots.lookup_isSome_iff.mpr (record ▸ rfl)) rfl
          generalize (defaultDespawnActor p remote.user.driver).2 = driver at *
          have known : driver.seen p = some (false, handle) := by
            rw [driverSeen, Function.update_self]
          have synced := syncSceneActorHandle_looksLike (w := { remote.user with driver }) known live
          obtain ⟨w, wIs⟩ : ∃ w, w = syncSceneActorHandle p { remote.user with driver } := ⟨_, rfl⟩
          rw [← wIs] at synced
          obtain ⟨hidden, distinct⟩ := w.finish_hide ((congrFun synced.scene p).trans live)
          have seen := hidden.trans (congrArg (Function.update · p _) synced.scene)
          have despawns : sceneDespawn p remote = (true,
              ⟨remote.players.modifyFirst (Slots.holds p) fun _ => .zero,
                { w.finish p .hide with scene := { (w.finish p .hide).scene with
                  despawnCount := (w.finish p .hide).scene.despawnCount + 1 } }⟩) := by
            rw [sceneDespawn, held]
            simp only [removed, despawned, ← wIs, Bool.not_true, Bool.false_eq_true, if_false]
          refine .inr ⟨_, handle, despawns, ⟨⟨?_, ?_, ?_, ?_, ?_⟩, ?_, fun q => ?_⟩, live, seen,
            synced.nextHandle⟩
          · exact distinct (synced.distinct agreed.world.scene)
          · exact synced.driver.distinct (driverDistinct agreed.world.driver)
          · show w.driver.seen = (w.finish p .hide).scene.seen
            rw [synced.driver.seen, seen, driverSeen, agreed.world.same]
          · show (w.finish p .hide).scene.seen 0 = none
            rw [seen, Function.update_of_ne (Ne.symm somebody), agreed.world.nobody]
          · show w.contract.Default
            rw [synced.contract]
            exact agreed.world.usual
          · exact agreed.players.release rfl
          · show (Slots.lookup q (Slots.modifyFirst (Slots.holds p) (fun _ => ProxyPlayerRecord.zero)
              remote.players.slots)).isSome ↔ ∃ handle', (w.finish p .hide).scene.seen q = _
            rw [Slots.lookup_release agreed.players rfl, seen, Function.update_apply]
            split
            · refine iff_of_false Bool.false_ne_true fun live' => ?_
              obtain ⟨_, live'⟩ := live'
              cases live'
            · exact agreed.shown q

theorem rpmPassUpdate_shown_scene (agreed : Agreed remote) (msg : MsgPlayerState F)
    (shown : (Slots.lookup msg.playerId remote.players.slots).isSome)
    (policy : RemoteProxyUpdatePolicy F) :
    Agreed (rpmPassUpdate sceneBackend policy msg remote).2 ∧
      (rpmPassUpdate sceneBackend policy msg remote).2.user.LooksLike remote.user := by
  obtain ⟨current, found⟩ := Option.isSome_iff_exists.mp shown
  obtain ⟨handle, live⟩ := (agreed.shown _).mp shown
  obtain ⟨position, rotation, frame⟩ :=
    rpupApplyPlayerUpdateEx_frame policy current (updateSpecOf msg)
  obtain ⟨result, moved⟩ : ∃ result, rpupApplyPlayerUpdateEx policy current (updateSpecOf msg) =
      ({ updateSpecOf msg with position, rotation }, result) := ⟨_, Prod.ext frame rfl⟩
  have noted := scenePolicyResult_looksLike agreed.world live result
  have agreed' : Agreed ⟨remote.players, scenePolicyResult msg.playerId result remote.user⟩ :=
    agreed.of_looksLike noted agreed.players fun _ => rfl
  obtain ⟨after, updated, after_agreed, looks, _⟩ :=
    sceneUpdate_shown agreed' { updateSpecOf msg with position, rotation } shown
  have passed : rpmPassUpdate sceneBackend policy msg remote = (true, { after with
      players := after.players.modifyFirst (Slots.holds msg.playerId) fun s => { s with
        lastStateSequence := msg.stateSequence, lastObservedTick := msg.observedTick } }) := by
    simp only [rpmPassUpdate, found, moved, sceneBackend, updated]
  rw [passed]
  refine ⟨after_agreed.of_looksLike (.refl _) ?_ fun q => ?_, looks.trans noted⟩
  · exact after_agreed.players.update (by exact fun _ held => held)
  · exact lookup_modifyFirst_isSome (by exact fun _ held => held)

end Layers

/-! ## Runs -/

/-- What one call does to the actors that the scene shows. -/
inductive SceneChange (before after : Scene F) : Prop where
  | same (seen : after.seen = before.seen) (next : after.nextHandle = before.nextHandle)
  | shown (p : PlayerId) (handle : UInt64)
      (seen : after.seen = Function.update before.seen p (some (true, handle)))
      (next : after.nextHandle = before.nextHandle + 1)
      (given : before.nextHandle + 1 ≠ 0 → handle = before.nextHandle + 1)
  | hidden (p : PlayerId) (handle : UInt64) (was : before.seen p = some (true, handle))
      (seen : after.seen = Function.update before.seen p (some (false, handle)))
      (next : after.nextHandle = before.nextHandle)

/-- A manager over the scene backend. -/
structure SceneClient (F : Type) where
  manager : RemoteProxyManager F
  remote : RemotePlayers F (SceneWorld F)

/-- `proxy_runtime_init`, `fpad_reset_default_driver`, `fpasc_reset` and
`fo4_scene_proxy_backend_stub_install` -/
def freshScene (manager : RemoteProxyManager F) : SceneClient F where
  manager := manager
  remote := ⟨.empty, { scene := { interp := ⟨true, lit 1 4, lit 35 100⟩ } }⟩

inductive SceneCall (F : Type) where
  | apply (msg : MsgPlayerState F)
  | remove (playerId : PlayerId)
  | step
  | configure (cfg : Option (Fo4SceneProxyInterpolationConfig F))

def sceneCall (s : SceneClient F) : SceneCall F → SceneClient F
  | .apply msg =>
      let (_, manager, remote) := rpmApplyRemotePlayerState sceneBackend msg s.manager s.remote
      { manager, remote }
  | .remove playerId =>
      { s with remote := (rpmRemoveRemotePlayer sceneBackend playerId s.manager s.remote).2 }
  | .step => { s with remote := { s.remote with user := sceneStep s.remote.user } }
  | .configure cfg =>
      { s with remote := { s.remote with user := sceneSetInterpolationConfig cfg s.remote.user } }

section Runs
variable {s : SceneClient F}

theorem rpmApply_new (agreed : Agreed s.remote) (msg : MsgPlayerState F)
    (other : ¬(msg.playerId = 0 ∨ msg.playerId = s.manager.localPlayerId))
    (absent : Slots.lookup msg.playerId s.remote.players.slots = none) :
    let after := (rpmApplyRemotePlayerState sceneBackend msg s.manager s.remote).2.2
    after = s.remote ∧ s.remote.user.scene.seen msg.playerId = none ∨
      ∃ handle, Agreed after ∧
        after.user.scene.seen =
          Function.update s.remote.user.scene.seen msg.playerId (some (true, handle)) ∧
        after.user.scene.nextHandle = s.remote.user.scene.nextHandle + 1 ∧
        (s.remote.user.scene.nextHandle + 1 ≠ 0 →
          handle = s.remote.user.scene.nextHandle + 1) := by
  have spawns := sceneSpawn_cases agreed (spawnSpecOf msg) (fun zero => other (.inl zero)) absent
  rw [← show (sceneBackend : RemoteProxyBackend F _).spawnPlayer = sceneSpawn from rfl,
    spawnSpecOf] at spawns
  simp only [rpmApplyRemotePlayerState, if_neg other, absent]
  rcases spawns with ⟨nothing, new⟩ | ⟨spawned, handle, eq, agreed', shown, seen, next, given⟩
  · simp only [nothing, Bool.not_false, if_true]
    exact .inl ⟨trivial, new⟩
  · obtain ⟨passed, looks⟩ := rpmPassUpdate_shown_scene agreed' msg shown s.manager.policy
    obtain ⟨record, found⟩ := Option.isSome_iff_exists.mp shown
    refine .inr ⟨handle, ?_⟩
    simp only [eq, found, Bool.not_true, Bool.false_eq_true, if_false]
    split
    · exact ⟨agreed', seen, next, given⟩
    · exact ⟨passed, looks.scene.trans seen, looks.nextHandle.trans next, given⟩

theorem sceneCall_apply (agreed : Agreed s.remote) (msg : MsgPlayerState F) :
    let after := (rpmApplyRemotePlayerState sceneBackend msg s.manager s.remote).2.2
    Agreed after ∧ SceneChange s.remote.user.scene after.user.scene := by
  by_cases other : msg.playerId = 0 ∨ msg.playerId = s.manager.localPlayerId
  · simp only [rpmApplyRemotePlayerState, if_pos other]
    exact ⟨agreed, .same rfl rfl⟩
  · cases found : Slots.lookup msg.playerId s.remote.players.slots with
    | some current =>
        simp only [rpmApplyRemotePlayerState, if_neg other, found, Bool.not_true,
          Bool.false_eq_true, if_false]
        split
        · exact ⟨agreed, .same rfl rfl⟩
        · obtain ⟨passed, looks⟩ :=
            rpmPassUpdate_shown_scene agreed msg (found ▸ rfl) s.manager.policy
          exact ⟨passed, .same looks.scene looks.nextHandle⟩
    | none =>
        rcases rpmApply_new agreed msg other found with
          ⟨nothing, _⟩ | ⟨handle, agreed', seen, next, given⟩
        · rw [nothing]
          exact ⟨agreed, .same rfl rfl⟩
        · exact ⟨agreed', .shown msg.playerId handle seen next given⟩

/-- A call keeps the agreement, and shows or hides at most one player. -/
theorem sceneCall_agreed (agreed : Agreed s.remote) (call : SceneCall F) :
    Agreed (sceneCall s call).remote ∧
      SceneChange s.remote.user.scene (sceneCall s call).remote.user.scene := by
  cases call with
  | apply msg => exact sceneCall_apply agreed msg
  | remove p =>
      simp only [sceneCall, rpmRemoveRemotePlayer]
      split
      · exact ⟨agreed, .same rfl rfl⟩
      · rcases sceneDespawn_cases agreed p with
          ⟨nothing, _⟩ | ⟨after, handle, eq, agreed', was, seen, next⟩
        · rw [show (sceneBackend.despawnPlayer p s.remote).2 = s.remote from nothing]
          exact ⟨agreed, .same rfl rfl⟩
        · rw [show sceneBackend.despawnPlayer p s.remote = (true, after) from eq]
          exact ⟨agreed', .hidden p handle was seen next⟩
  | step =>
      have looks := sceneStep_looksLike agreed.world
      simp only [sceneCall]
      generalize sceneStep s.remote.user = w at looks
      exact ⟨agreed.of_looksLike looks agreed.players fun _ => rfl, .same looks.scene looks.nextHandle⟩
  | configure cfg =>
      have looks : (sceneSetInterpolationConfig cfg s.remote.user).LooksLike s.remote.user :=
        ⟨rfl, ⟨rfl, id⟩, id, rfl, rfl⟩
      exact ⟨agreed.of_looksLike looks agreed.players fun _ => rfl, .same looks.scene looks.nextHandle⟩

theorem freshScene_agreed (manager : RemoteProxyManager F) :
    Agreed (freshScene manager).remote where
  world := ⟨.nil, .nil, rfl, rfl, fun config given => by cases given⟩
  players := .nil
  shown p := iff_of_false Bool.false_ne_true fun ⟨_, h⟩ => by cases h

theorem run_agreed (manager : RemoteProxyManager F) (calls : List (SceneCall F)) :
    Agreed (run sceneCall (freshScene manager) calls).remote :=
  @run_invariant _ _ _ _ _ (fun _ _ => True) (fun s : SceneClient F => Agreed s.remote)
    (fun _ call agreed _ => (sceneCall_agreed agreed call).1) (freshScene_agreed manager)
    (along_always fun _ _ => trivial)

/-! ## Handles -/

/-- The spawns of a run: the calls that draw a handle from the scene's counter. -/
def sceneSpawns (s : SceneClient F) (calls : List (SceneCall F)) : Nat :=
  (emitted sceneCall (fun s call =>
    if (sceneCall s call).remote.user.scene.nextHandle = s.remote.user.scene.nextHandle then none
    else some ()) s calls).length

/-- After `n` spawns the actors carry different handles from 1 to `n`. -/
structure Numbered (n : Nat) (scene : Scene F) : Prop where
  next : scene.nextHandle.toNat = n
  known : ∀ p live handle, scene.seen p = some (live, handle) → 0 < handle.toNat ∧ handle.toNat ≤ n
  apart : ∀ p q live live' handle, scene.seen p = some (live, handle) →
    scene.seen q = some (live', handle) → p = q

omit [CFloat F] in
/-- A call keeps the handles apart as long as the counter does not come round. -/
theorem Numbered.change {before after : Scene F} {n : Nat} (numbered : Numbered n before)
    (change : SceneChange before after)
    (few : (if after.nextHandle = before.nextHandle then n else n + 1) < 2 ^ 64) :
    Numbered (if after.nextHandle = before.nextHandle then n else n + 1) after := by
  cases change with
  | same seen next =>
      rw [if_pos next]
      exact ⟨next ▸ numbered.next, seen ▸ numbered.known, seen ▸ numbered.apart⟩
  | hidden p handle was seen next =>
      rw [if_pos next]
      have earlier : ∀ q live h, after.seen q = some (live, h) →
          ∃ live', before.seen q = some (live', h) := by
        intro q live h looked
        rw [seen, Function.update_apply] at looked
        split at looked
        · rename_i same
          cases looked
          exact ⟨true, same ▸ was⟩
        · exact ⟨live, looked⟩
      refine ⟨next ▸ numbered.next, fun q live h looked => ?_, fun q r live live' h looked looked' => ?_⟩
      · obtain ⟨live', was'⟩ := earlier q live h looked
        exact numbered.known q live' h was'
      · obtain ⟨_, wasQ⟩ := earlier q live h looked
        obtain ⟨_, wasR⟩ := earlier r live' h looked'
        exact numbered.apart q r _ _ h wasQ wasR
  | shown p handle seen next given =>
      have bound := before.nextHandle.toNat_lt
      have step : after.nextHandle.toNat = (n + 1) % 2 ^ 64 := by
        rw [next, UInt64.toNat_add, numbered.next]
        rfl
      have moved : after.nextHandle ≠ before.nextHandle := by
        intro same
        rw [same, numbered.next] at step
        rw [numbered.next] at bound
        omega
      rw [if_neg moved] at few ⊢
      rw [Nat.mod_eq_of_lt few] at step
      have handleIs : handle.toNat = n + 1 := by
        rw [given, ← next, step]
        intro zero
        rw [next, zero] at step
        cases step
      have looks : ∀ q live h, after.seen q = some (live, h) →
          q = p ∧ h = handle ∨ before.seen q = some (live, h) := by
        intro q live h looked
        rw [seen, Function.update_apply] at looked
        split at looked
        · rename_i same
          cases looked
          exact .inl ⟨same, rfl⟩
        · exact .inr looked
      have older : ∀ q live, before.seen q ≠ some (live, handle) := by
        intro q live was
        have := (numbered.known q live handle was).2
        omega
      refine ⟨step, fun q live h looked => ?_, fun q r live live' h looked looked' => ?_⟩
      · rcases looks q live h looked with ⟨_, rfl⟩ | was
        · omega
        · have := numbered.known q live h was
          omega
      · rcases looks q live h looked with ⟨rfl, rfl⟩ | was <;>
          rcases looks r live' h looked' with ⟨rfl, same⟩ | was'
        · rfl
        · exact absurd was' (older r live')
        · exact absurd (same ▸ was) (older q live)
        · exact numbered.apart q r live live' h was was'

theorem sceneSpawns_snoc (calls : List (SceneCall F)) (call : SceneCall F) :
    sceneSpawns s (calls ++ [call]) =
      if (sceneCall (run sceneCall s calls) call).remote.user.scene.nextHandle =
        (run sceneCall s calls).remote.user.scene.nextHandle then sceneSpawns s calls
      else sceneSpawns s calls + 1 := by
  rw [sceneSpawns, emitted_append, List.length_append]
  simp only [emitted, List.append_nil]
  split <;> rfl

theorem run_numbered (manager : RemoteProxyManager F) (calls : List (SceneCall F))
    (few : sceneSpawns (freshScene manager) calls < 2 ^ 64) :
    Numbered (sceneSpawns (freshScene manager) calls)
      (run sceneCall (freshScene manager) calls).remote.user.scene := by
  induction calls using List.reverseRecOn with
  | nil =>
      have nobody (p : PlayerId) (live : Bool) (handle : UInt64) :
          (freshScene manager).remote.user.scene.seen p ≠ some (live, handle) :=
        fun known => by cases known
      exact ⟨rfl, fun p live handle known => absurd known (nobody p live handle),
        fun p q live _ handle known => absurd known (nobody p live handle)⟩
  | append_singleton calls call ih =>
      rw [sceneSpawns_snoc] at few ⊢
      rw [run_snoc]
      have before : sceneSpawns (freshScene manager) calls < 2 ^ 64 := by
        split at few
        · exact few
        · exact Nat.lt_of_succ_lt few
      exact (ih before).change (sceneCall_agreed (run_agreed manager calls) call).2 few

/-! ## The agreement -/

/-- The slots of a player that the layers call live. -/
def SceneShows (w : SceneWorld F) (p : PlayerId) (t : Fo4SceneProxyPlayerState F) : Prop :=
  Slots.lookup p w.scene.players.slots = some t ∧ t.visible = true ∧ t.despawned = false

def DriverShows (w : SceneWorld F) (p : PlayerId) (d : Fo4ProxyActorState F) : Prop :=
  Slots.lookup p w.driver.players.slots = some d ∧ d.despawned = false

/-- A record exists for the players that the scene and the driver show, with one handle that is theirs
alone. -/
structure LayersAgree (remote : RemotePlayers F (SceneWorld F)) : Prop where
  scene : ∀ p, (Slots.lookup p remote.players.slots).isSome ↔ ∃ t, SceneShows remote.user p t
  driver : ∀ p, (Slots.lookup p remote.players.slots).isSome ↔ ∃ d, DriverShows remote.user p d
  handle : ∀ p t d, SceneShows remote.user p t → DriverShows remote.user p d →
    t.actorHandle = d.actorHandle ∧ t.actorHandle ≠ 0
  apart : ∀ p q t t', SceneShows remote.user p t → SceneShows remote.user q t' → p ≠ q →
    t.actorHandle ≠ t'.actorHandle

omit [CFloat F] in
theorem SceneShows.seen {w : SceneWorld F} {p : PlayerId} {t : Fo4SceneProxyPlayerState F}
    (shows : SceneShows w p t) : w.scene.seen p = some (true, t.actorHandle) := by
  obtain ⟨found, visible, kept⟩ := shows
  refine Option.map_eq_some_iff.mpr ⟨t, found, ?_⟩
  rw [Fo4SceneProxyPlayerState.seen, visible, kept]
  rfl

omit [CFloat F] in
theorem sceneShows_iff {w : SceneWorld F} {p : PlayerId} :
    (∃ t, SceneShows w p t) ↔ ∃ handle, w.scene.seen p = some (true, handle) := by
  refine ⟨fun ⟨t, shows⟩ => ⟨t.actorHandle, shows.seen⟩, fun ⟨handle, known⟩ => ?_⟩
  obtain ⟨t, found, seen⟩ := Scene.lookup_of_seen known
  have shown : (t.visible && !t.despawned) = true := congrArg Prod.fst seen
  rw [Bool.and_eq_true, Bool.not_eq_true'] at shown
  exact ⟨t, found, shown⟩

omit [CFloat F] in
theorem DriverShows.seen {w : SceneWorld F} {p : PlayerId} {d : Fo4ProxyActorState F}
    (shows : DriverShows w p d) : w.driver.seen p = some (true, d.actorHandle) := by
  obtain ⟨found, kept⟩ := shows
  refine Option.map_eq_some_iff.mpr ⟨d, found, ?_⟩
  rw [Fo4ProxyActorState.seen, kept]
  rfl

omit [CFloat F] in
theorem driverShows_iff {w : SceneWorld F} {p : PlayerId} :
    (∃ d, DriverShows w p d) ↔ ∃ handle, w.driver.seen p = some (true, handle) := by
  refine ⟨fun ⟨d, shows⟩ => ⟨d.actorHandle, shows.seen⟩, fun ⟨handle, known⟩ => ?_⟩
  obtain ⟨d, found, seen⟩ := Option.map_eq_some_iff.mp known
  have kept : (!d.despawned) = true := congrArg Prod.fst seen
  exact ⟨d, found, (Bool.not_eq_true' _).mp kept⟩

/-- The layers agree after every run with fewer than 2^64 spawns. -/
theorem run_layersAgree (manager : RemoteProxyManager F) (calls : List (SceneCall F))
    (few : sceneSpawns (freshScene manager) calls < 2 ^ 64) :
    LayersAgree (run sceneCall (freshScene manager) calls).remote := by
  have agreed := run_agreed manager calls
  have numbered := run_numbered manager calls few
  generalize (run sceneCall (freshScene manager) calls).remote = remote at agreed numbered
  refine ⟨fun p => ?_, fun p => ?_, fun p t d shows drives => ?_, fun p q t t' shows shows' other => ?_⟩
  · rw [agreed.shown, sceneShows_iff]
  · rw [agreed.shown, driverShows_iff, agreed.world.same]
  · have same := drives.seen.symm.trans ((congrFun agreed.world.same p).trans shows.seen)
    refine ⟨(congrArg Prod.snd (Option.some.inj same)).symm, fun zero => ?_⟩
    have known := (numbered.known p true t.actorHandle shows.seen).1
    rw [zero] at known
    exact Nat.lt_irrefl 0 known
  · intro same
    exact other (numbered.apart p q true true _ shows.seen (same ▸ shows'.seen))

def stateOf (playerId : PlayerId) : MsgPlayerState Binary32 :=
  ⟨playerId, 0, zeroVec, zeroRot, zeroVec, 0, {}, 0, 0, 0, 1, 1⟩

theorem run_layersAgree_two :
    let calls := [.apply (stateOf 1), .apply (stateOf 2), .remove 1, .step]
    sceneSpawns (freshScene (rpmInit 7)) calls < 2 ^ 64 ∧
      LayersAgree (run sceneCall (freshScene (rpmInit 7)) calls).remote :=
  have few : sceneSpawns (freshScene (rpmInit 7))
      [.apply (stateOf 1), .apply (stateOf 2), .remove 1, .step] < 2 ^ 64 := by decide +kernel
  ⟨few, run_layersAgree _ _ few⟩

end Runs

/-! ## The counter comes round -/

/-- The second player comes and goes. -/
def rounds : Nat → List (SceneCall Binary32)
  | 0 => []
  | n + 1 => .apply (stateOf 2) :: .remove 2 :: rounds n

/-- The first player is shown under the first handle, and the second player is gone. -/
structure SecondGone (s : SceneClient Binary32) : Prop where
  agreed : Agreed s.remote
  manager : s.manager.localPlayerId = 7
  first : s.remote.user.scene.seen 1 = some (true, 1)
  second : ∃ handle, s.remote.user.scene.seen 2 = some (false, handle)

theorem sceneCall_localPlayerId {F : Type} [CFloat F] (s : SceneClient F) (call : SceneCall F) :
    (sceneCall s call).manager.localPlayerId = s.manager.localPlayerId := by
  cases call with
  | apply msg =>
      simp only [sceneCall, rpmApplyRemotePlayerState]
      repeat' split
      all_goals rfl
  | remove _ | step | configure _ => rfl

section Rounds
variable {s : SceneClient Binary32}

theorem SecondGone.returns (gone : SecondGone s) :
    let after := (sceneCall s (.apply (stateOf 2))).remote
    Agreed after ∧ after.user.scene.seen 1 = some (true, 1) ∧
      after.user.scene.nextHandle = s.remote.user.scene.nextHandle + 1 ∧
      ∃ handle, after.user.scene.seen 2 = some (true, handle) ∧
        (s.remote.user.scene.nextHandle + 1 ≠ 0 →
          handle = s.remote.user.scene.nextHandle + 1) := by
  obtain ⟨hidden, second⟩ := gone.second
  have other : ¬((stateOf 2).playerId = 0 ∨ (stateOf 2).playerId = s.manager.localPlayerId) := by
    rw [gone.manager]
    decide
  have absent : Slots.lookup (stateOf 2).playerId s.remote.players.slots = none := by
    rw [← Option.not_isSome_iff_eq_none, gone.agreed.shown]
    rintro ⟨handle, live⟩
    cases live.symm.trans second
  rcases rpmApply_new gone.agreed (stateOf 2) other absent with
    ⟨_, new⟩ | ⟨handle, agreed, seen, next, given⟩
  · cases new.symm.trans second
  · refine ⟨agreed, ?_, next, handle, ?_, given⟩
    · exact (congrFun seen 1).trans ((Function.update_of_ne (by decide) _ _).trans gone.first)
    · exact (congrFun seen 2).trans (Function.update_self _ _ _)

theorem SecondGone.round (gone : SecondGone s) :
    let after := sceneCall (sceneCall s (.apply (stateOf 2))) (.remove 2)
    SecondGone after ∧
      after.remote.user.scene.nextHandle = s.remote.user.scene.nextHandle + 1 := by
  obtain ⟨agreed, first, next, handle, second, _⟩ := gone.returns
  have manager := sceneCall_localPlayerId s (.apply (stateOf 2))
  generalize sceneCall s (.apply (stateOf 2)) = s' at agreed first next second manager
  rw [gone.manager] at manager
  have away : ¬(2 : PlayerId) = s'.manager.localPlayerId := by
    rw [manager]
    decide
  rcases sceneDespawn_cases agreed 2 with ⟨_, absent⟩ | ⟨after, handle', eq, agreed', was, seen, same⟩
  · have shown := (agreed.shown 2).mpr ⟨handle, second⟩
    rw [absent] at shown
    cases shown
  · have removed : sceneCall s' (.remove 2) = { s' with remote := after } := by
      simp only [sceneCall, rpmRemoveRemotePlayer, if_neg away]
      rw [show sceneBackend.despawnPlayer 2 s'.remote = (true, after) from eq]
    rw [removed]
    refine ⟨⟨agreed', manager, ?_, handle', ?_⟩, same.trans next⟩
    · exact (congrFun seen 1).trans ((Function.update_of_ne (by decide) _ _).trans first)
    · exact (congrFun seen 2).trans (Function.update_self _ _ _)

theorem SecondGone.rounds (n : Nat) {s : SceneClient Binary32} (gone : SecondGone s) :
    SecondGone (run sceneCall s (rounds n)) ∧
      (run sceneCall s (Client.rounds n)).remote.user.scene.nextHandle =
        s.remote.user.scene.nextHandle + UInt64.ofNat n := by
  induction n generalizing s with
  | zero => exact ⟨gone, (UInt64.add_zero _).symm⟩
  | succ n ih =>
      obtain ⟨gone', next⟩ := gone.round
      obtain ⟨after, next'⟩ := ih gone'
      refine ⟨after, next'.trans ?_⟩
      rw [next, UInt64.ofNat_add, UInt64.add_assoc]
      exact congrArg _ (UInt64.add_comm _ _)

/-- The layers disagree when the second player returns under the handle of the first one. -/
theorem rounds_disagree (n : Nat) (comes : 2 + UInt64.ofNat n + 1 = 1) :
    ¬LayersAgree (run sceneCall (freshScene (rpmInit 7)) (.apply (stateOf 1) ::
      .apply (stateOf 2) :: .remove 2 :: (rounds n ++ [.apply (stateOf 2)]))).remote := by
  have start : SecondGone (run sceneCall (freshScene (rpmInit 7))
      [.apply (stateOf 1), .apply (stateOf 2), .remove 2]) :=
    ⟨run_agreed _ _, sceneCall_localPlayerId _ _, by decide +kernel, 2, by decide +kernel⟩
  have next : (run sceneCall (freshScene (rpmInit 7)) [.apply (stateOf 1), .apply (stateOf 2),
      .remove 2]).remote.user.scene.nextHandle = 2 := by decide +kernel
  obtain ⟨gone, later⟩ := start.rounds n
  rw [next] at later
  obtain ⟨_, first, _, handle, second, given⟩ := gone.returns
  rw [later, comes] at given
  rw [show ∀ calls, SceneCall.apply (stateOf 1) :: .apply (stateOf 2) :: .remove 2 :: calls =
    [.apply (stateOf 1), .apply (stateOf 2), .remove 2] ++ calls from fun _ => rfl, run_append,
    run_snoc]
  intro agree
  obtain ⟨t, shows⟩ := sceneShows_iff.mpr ⟨_, first⟩
  obtain ⟨t', shows'⟩ := sceneShows_iff.mpr ⟨_, second⟩
  refine agree.apart 1 2 t t' shows shows' (by decide) ?_
  have firstIs := shows.seen.symm.trans first
  have secondIs := shows'.seen.symm.trans second
  rw [given (by decide)] at secondIs
  exact congrArg Prod.snd (Option.some.inj (firstIs.trans secondIs.symm))

theorem run_layersAgree_apart : ¬LayersAgree (run sceneCall (freshScene (rpmInit 7))
    (.apply (stateOf 1) :: .apply (stateOf 2) :: .remove 2 ::
      (rounds (2 ^ 64 - 2) ++ [.apply (stateOf 2)]))).remote :=
  rounds_disagree _ (by decide)

end Rounds

end F4MP.Client

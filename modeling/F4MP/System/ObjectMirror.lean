import F4MP.System.Mirror

/-!
# Objects that a client shows

The objects of a session and the objects that a client shows stand for a map from ids to what is
known of an object. The messages about objects act on this map, and what a step of the service does
to its own map is what the messages it posts do to the client's.
-/

namespace F4MP.System
open SoftFloat Protocol Service Client Transition

variable {F U : Type}

/-! ## The map of a session and the map of a client -/

structure ObjectView (F : Type) where
  formId : UInt32
  position : Vec3f F
  rotation : Rot3f F
  stateFlags : UInt16

abbrev ObjectMap (F : Type) := ObjectNetId → Option (ObjectView F)

def runtimeView (obj : ObjectRuntimeState F) : ObjectView F :=
  ⟨obj.formId, obj.position, obj.rotation, obj.stateFlags⟩

def recordView (record : ProxyObjectRecord F) : ObjectView F :=
  ⟨record.formId, record.position, record.rotation, record.stateFlags⟩

/-- The objects in use. -/
def objectsHeld (s : SessionState F) : ObjectMap F := Slots.view runtimeView s.objects.slots

/-- The objects that are shown. -/
def objectsShown (objects : ObjectProxies F) : ObjectMap F := Slots.view recordView objects.slots

/-! ## What the messages do to the map -/

def spawnView (msg : MsgObjectSpawn F) : ObjectView F :=
  ⟨msg.formId, msg.position, msg.rotation, msg.stateFlags⟩

/-- An update of every field. -/
def updateView (msg : MsgObjectUpdate F) (view : ObjectView F) : ObjectView F :=
  { view with position := msg.position, rotation := msg.rotation, stateFlags := msg.stateFlags }

namespace ObjectMap

def spawn (msg : MsgObjectSpawn F) (map : ObjectMap F) : ObjectMap F :=
  Function.update map msg.objectNetId (some (spawnView msg))

def update (msg : MsgObjectUpdate F) (map : ObjectMap F) : ObjectMap F :=
  Function.update map msg.objectNetId ((map msg.objectNetId).map (updateView msg))

def despawn (objectNetId : ObjectNetId) (map : ObjectMap F) : ObjectMap F :=
  Function.update map objectNetId none

theorem spawn_spawn (msg : MsgObjectSpawn F) (map : ObjectMap F) :
    (map.spawn msg).spawn msg = map.spawn msg := Function.update_idem _ _ _

theorem spawn_known {msg : MsgObjectSpawn F} {map : ObjectMap F}
    (known : map msg.objectNetId = some (spawnView msg)) : map.spawn msg = map := by
  rw [spawn, ← known, Function.update_eq_self]

theorem update_update (msg : MsgObjectUpdate F) (map : ObjectMap F) :
    (map.update msg).update msg = map.update msg := by
  simp only [update, Function.update_self, Function.update_idem]
  cases map msg.objectNetId <;> rfl

theorem despawn_despawn (objectNetId : ObjectNetId) (map : ObjectMap F) :
    (map.despawn objectNetId).despawn objectNetId = map.despawn objectNetId :=
  Function.update_idem _ _ _

end ObjectMap

/-! ## The client's table -/

/-- The table shows a map, each id once. -/
structure Shows (objects : ObjectProxies F) (map : ObjectMap F) : Prop where
  distinct : Slots.Distinct objects.slots
  shown : objectsShown objects = map

section Client
variable [CFloat F] {objects : ObjectProxies F} {map : ObjectMap F}

omit [CFloat F] in
theorem Shows.spawn (shows_ : Shows objects map) {msg : MsgObjectSpawn F}
    (room : (map msg.objectNetId).isSome ∨ objects.slots.countP Slots.Slot.live < 256) :
    Shows (proxySpawnObject msg objects).2 (map.spawn msg) := by
  let record : ProxyObjectRecord F :=
    ⟨true, msg.objectNetId, msg.formId, msg.position, msg.rotation, msg.stateFlags⟩
  have free : (Slots.lookup (Slots.Slot.key record) objects.slots).isSome ∨
      objects.slots.countP Slots.Slot.live < 256 := by
    rw [← shows_.shown, objectsShown, Slots.view, Option.isSome_map] at room
    exact room
  obtain ⟨after, stored⟩ := Option.isSome_iff_exists.mp (Slots.Table.store_isSome_iff.mpr free)
  have spawned : (proxySpawnObject msg objects).2 = after := by
    rw [proxySpawnObject, stored]
  have slots := Slots.Table.store_slots stored
  rw [spawned, ObjectMap.spawn, ← shows_.shown]
  exact ⟨shows_.distinct.store slots rfl, Slots.view_store slots rfl⟩

omit [CFloat F] in
theorem recordView_update {msg : MsgObjectUpdate F} (whole : msg.fieldsMask = moveMask)
    (record : ProxyObjectRecord F) :
    recordView (record.update msg) = updateView msg (recordView record) := by
  have position : moveMask &&& ObjectUpdateFields.position ≠ 0 := by decide
  have rotation : moveMask &&& ObjectUpdateFields.rotation ≠ 0 := by decide
  have stateFlags : moveMask &&& ObjectUpdateFields.stateFlags ≠ 0 := by decide
  simp only [ProxyObjectRecord.update, whole, if_pos position, if_pos rotation, if_pos stateFlags]
  rfl

omit [CFloat F] in
theorem Shows.update (shows_ : Shows objects map) {msg : MsgObjectUpdate F}
    (whole : msg.fieldsMask = moveMask) :
    Shows (proxyUpdateObject msg objects).2 (map.update msg) := by
  have keeps : ∀ record : ProxyObjectRecord F, Slots.holds msg.objectNetId record = true →
      Slots.holds msg.objectNetId (record.update msg) = true := fun _ held => held
  rw [ObjectMap.update, ← shows_.shown]
  exact ⟨shows_.distinct.update keeps, Slots.view_update keeps (recordView_update whole)⟩

theorem Shows.despawn (shows_ : Shows objects map) (objectNetId : ObjectNetId) :
    Shows (proxyDespawnObject objectNetId objects).2 (map.despawn objectNetId) := by
  rw [ObjectMap.despawn, ← shows_.shown]
  exact ⟨shows_.distinct.release rfl, Slots.view_release shows_.distinct rfl⟩

/-- The messages about objects. -/
def objectMessage : MessageType → Bool
  | .objectSpawn | .objectUpdate | .objectDespawn => true
  | _ => false

theorem applyMessage_objects [WireFloat F] (backend : RemoteProxyBackend F U) {type : MessageType}
    (other : objectMessage type = false) (body : Body F type) (c : ClientState F U) :
    (applyMessage backend type body c).2.objects = c.objects := by
  cases type with
  | objectSpawn => cases other
  | objectUpdate => cases other
  | objectDespawn => cases other
  | actorState =>
      simp only [applyMessage, paApplyActorState]
      split
      · rfl
      · split <;> rfl
  | actorDespawn =>
      simp only [applyMessage, paApplyActorDespawn]
      split <;> rfl
  | _ => rfl

/-- A message that tells the client nothing new about objects. -/
def Harmless (map : ObjectMap F) (p : Post F) : Prop :=
  objectMessage p.type = false ∨ ∃ connectionId flags msg,
    p = ⟨connectionId, .objectSpawn, flags, msg⟩ ∧ map msg.objectNetId = some (spawnView msg)

theorem Shows.harmless [WireFloat F] {backend : RemoteProxyBackend F U} {p : Post F}
    (harmless : Harmless map p) {c : ClientState F U} (shows_ : Shows c.objects map) :
    Shows (applyMessage backend p.type p.body c).2.objects map := by
  rcases harmless with other | ⟨_, _, msg, rfl, known⟩
  · rw [applyMessage_objects backend other]
    exact shows_
  · have spawned : Shows _ (map.spawn msg) := shows_.spawn (.inl (by rw [known]; rfl))
    rw [ObjectMap.spawn_known known] at spawned
    exact spawned

end Client

/-! ## The session's table -/

/-- The ids in use are distinct and were all given out by the counter. -/
structure ObjectsSound (s : ServiceState F) : Prop where
  distinct : Slots.Distinct s.session.objects.slots
  below : ∀ obj ∈ s.session.objects.slots, obj.inUse = true → obj.objectNetId < s.nextObjectId

theorem ObjectsSound.unused {s : ServiceState F} (sound : ObjectsSound s) :
    findObject s.session s.nextObjectId = none := by
  refine Slots.lookup_eq_none.mpr fun obj listed live same => ?_
  have below := sound.below obj listed live
  exact UInt32.ne_of_lt below same

theorem objectsHeld_spawnMsg {s : SessionState F} (distinct : Slots.Distinct s.objects.slots)
    {obj : ObjectRuntimeState F} (listed : obj ∈ s.objects.slots) (inUse : obj.inUse = true) :
    objectsHeld s (objectSpawnMsg obj).objectNetId = some (spawnView (objectSpawnMsg obj)) :=
  congrArg (Option.map runtimeView) (Slots.lookup_of_mem distinct listed inUse)

theorem Shows.count {objects : ObjectProxies F} {s : SessionState F}
    (distinct : Slots.Distinct s.objects.slots) (shows_ : Shows objects (objectsHeld s)) :
    objects.slots.countP Slots.Slot.live = s.objects.slots.countP (·.inUse) := by
  refine Slots.countP_live_eq shows_.distinct distinct fun id => ?_
  have same := congrArg Option.isSome (congrFun shows_.shown id)
  simp only [objectsShown, objectsHeld, Slots.view, Option.isSome_map] at same
  rw [same]

section Service
variable [CFloat F]

omit [CFloat F] in
theorem answerPosts_type {s : SessionState F} {connectionId : UInt32} {playerId : PlayerId}
    {profile : PlayerProfile} {p : Post F}
    (member : p ∈ answerPosts s connectionId playerId profile) : objectMessage p.type = false := by
  simp only [answerPosts, profilePosts, welcomePost, List.mem_cons, List.not_mem_nil,
    or_false] at member
  rcases member with rfl | rfl | rfl | rfl | rfl <;> rfl

theorem helloPosts_harmless {store : ProfileStore} {playerGuid playerName : Text}
    {connectionId : UInt32} {id : PlayerId} {slot : PlayerRuntimeState F} {taken : ServiceState F}
    (distinct : Slots.Distinct taken.session.objects.slots) {p : Post F}
    (member : p ∈ helloPosts store playerGuid playerName connectionId id slot taken) :
    Harmless (objectsHeld taken.session) p := by
  rcases List.mem_append.mp member with answer | replayed
  · exact .inl (answerPosts_type answer)
  · rcases mem_replayPosts replayed with ⟨_, _, _, _, rfl⟩ | ⟨_, _, _, rfl | rfl⟩ | ⟨obj, listed, inUse, rfl⟩
    · exact .inl rfl
    · exact .inl rfl
    · exact .inl rfl
    · exact .inr ⟨_, _, _, rfl, objectsHeld_spawnMsg distinct listed inUse⟩

omit [CFloat F] in
theorem toConnected_harmless {s : SessionState F} {type : MessageType}
    (other : objectMessage type = false) {flags : UInt16} {body : Body F type}
    {map : ObjectMap F} {p : Post F} (member : p ∈ toConnected s type flags body) :
    Harmless map p := by
  obtain ⟨_, _, _, rfl⟩ := mem_toConnected member
  exact .inl other

theorem hitPosts_harmless {s : SessionState F} {attacker : PlayerId} {target : ActorRuntimeState F}
    {map : ObjectMap F} {p : Post F} (member : p ∈ hitPosts s attacker target) :
    Harmless map p := by
  obtain ⟨_, _, _, rfl | ⟨_, _, rfl⟩ | ⟨_, rfl⟩⟩ := mem_hitPosts member <;> exact .inl rfl

theorem tickPosts_harmless {s : ServiceState F} {map : ObjectMap F} {p : Post F}
    (member : p ∈ tickPosts s) : Harmless map p := by
  rcases List.mem_append.mp member with leaving | despawned
  · obtain ⟨_, _, _, rfl⟩ := mem_leavePosts leaving
    exact .inl rfl
  · obtain ⟨_, _, _, _, _, rfl⟩ := mem_despawnPosts despawned
    exact .inl rfl

end Service

/-! ## A step of both -/

section Steps
variable [CFloat F] [WireFloat F] {backend : RemoteProxyBackend F U} {connectionId : UInt32}
  {m : Mirror F U}

/-- The client shows the objects of the session. -/
structure ObjectsMirrored (m : Mirror F U) : Prop where
  cleared : m.service.ctx.outputs = []
  sound : ObjectsSound m.service
  shows_ : Shows m.client.objects (objectsHeld m.service.session)

/-- The client stays connected, its table is large enough and the counter does not wrap. -/
def ObjectsFit (backend : RemoteProxyBackend F U) (connectionId : UInt32) (m : Mirror F U)
    (e : NetworkEvent) : Prop :=
  let after := (mirrorStep backend connectionId m e).service
  Connected connectionId m.service.session ∧
    after.session.objects.slots.countP (·.inUse) ≤ 256 ∧
    m.service.nextObjectId ≤ after.nextObjectId

theorem ObjectsMirrored.keep (inv : ObjectsMirrored m) {after : ServiceState F}
    {posts : List (Post F)} (same : after.session.objects = m.service.session.objects)
    (counted : m.service.nextObjectId ≤ after.nextObjectId)
    (harmless : ∀ p ∈ posts, Harmless (objectsHeld m.service.session) p) :
    ObjectsMirrored ⟨tlClearOutputs after,
      (posts.take maxOutputs).foldl (applyPost backend connectionId) m.client⟩ where
  cleared := rfl
  sound := ⟨same ▸ inv.sound.distinct, fun obj listed inUse =>
    UInt32.lt_of_lt_of_le (inv.sound.below obj (same ▸ listed) inUse) counted⟩
  shows_ := by
    have held : objectsHeld after.session = objectsHeld m.service.session := by
      rw [objectsHeld, same, objectsHeld]
    change Shows _ (objectsHeld after.session)
    rw [held]
    exact applyPosts_keep (Q := fun c => Shows c.objects (objectsHeld m.service.session))
      (fun p member _ before => before.harmless (harmless p (List.mem_of_mem_take member)))
      inv.shows_

/-- A message to everyone tells the client what has changed. -/
theorem ObjectsMirrored.spread (inv : ObjectsMirrored m) {after : ServiceState F}
    (sound : ObjectsSound after) (connected : Connected connectionId after.session)
    (first : List (Post F)) (silent : ∀ p ∈ first, objectMessage p.type = false)
    (few : first.length ≤ 1) {type : MessageType} (flags : UInt16) {body : Body F type}
    (tells : ∀ (before : SessionState F) c, before = m.service.session ∨ before = after.session →
      Shows c.objects (objectsHeld before) →
      Shows (applyMessage backend type body c).2.objects (objectsHeld after.session)) :
    ObjectsMirrored ⟨tlClearOutputs after,
      ((first ++ toConnected after.session type flags body).take maxOutputs).foldl
        (applyPost backend connectionId) m.client⟩ where
  cleared := rfl
  sound := ⟨sound.distinct, sound.below⟩
  shows_ := by
    have seats : (toConnected after.session type flags body).length ≤ 8 := by
      rw [toConnected, List.length_map]
      exact (List.length_filter_le _ _).trans_eq after.session.players.size
    have whole : (first ++ toConnected after.session type flags body).length ≤ maxOutputs := by
      rw [List.length_append, maxOutputs]
      omega
    rw [List.take_of_length_le whole, List.foldl_append]
    refine applyPosts_toConnected
      (P := fun c => Shows c.objects (objectsHeld m.service.session))
      (Q := fun c => Shows c.objects (objectsHeld after.session)) flags connected
      (fun c => tells _ c (.inl rfl)) (fun c => tells _ c (.inr rfl)) ?_
    exact applyPosts_keep (Q := fun c => Shows c.objects (objectsHeld m.service.session))
      (fun p member _ before => before.harmless (.inl (silent p member))) inv.shows_

theorem ObjectsMirrored.build (inv : ObjectsMirrored m) {after : ServiceState F}
    {obj : ObjectRuntimeState F} {objects : Slots.Table maxObjectsPerSession (ObjectRuntimeState F)}
    (live : obj.inUse = true) (id : obj.objectNetId = m.service.nextObjectId)
    (claimed : m.service.session.objects.claim Slots.free obj = some objects)
    (placed : after.session.objects = objects)
    (next : after.nextObjectId = m.service.nextObjectId + 1)
    (connected : Connected connectionId after.session)
    (room : after.session.objects.slots.countP (·.inUse) ≤ 256)
    (counted : m.service.nextObjectId ≤ after.nextObjectId) {result : Post F}
    (silent : objectMessage result.type = false) :
    ObjectsMirrored ⟨tlClearOutputs after,
      ((result :: objectSpawnPosts after.session m.service.nextObjectId).take maxOutputs).foldl
        (applyPost backend connectionId) m.client⟩ := by
  have fresh := inv.sound.unused
  rw [← id] at fresh
  have slots := Slots.Table.claim_slots claimed
  subst placed
  have found : findObject after.session m.service.nextObjectId = some obj := by
    rw [findObject, Slots.lookup_claim slots live fresh]
    exact if_pos id.symm
  have held : objectsHeld after.session =
      (objectsHeld m.service.session).spawn (objectSpawnMsg obj) :=
    Slots.view_claim slots live fresh
  have above : m.service.nextObjectId < after.nextObjectId := by
    refine UInt32.lt_of_le_of_ne counted fun same => ?_
    have wrapped := congrArg UInt32.toNat (same.trans next)
    have bound := m.service.nextObjectId.toNat_lt
    rw [UInt32.toNat_add, UInt32.toNat_one] at wrapped
    omega
  have sound : ObjectsSound after := by
    refine ⟨inv.sound.distinct.claim slots fresh, fun other listed inUse => ?_⟩
    rcases Slots.mem_claim slots listed with old | rfl
    · exact UInt32.lt_of_lt_of_le (inv.sound.below other old inUse) counted
    · exact id ▸ above
  have posts : objectSpawnPosts after.session m.service.nextObjectId =
      toConnected after.session .objectSpawn (MessageFlags.reliable ||| MessageFlags.ordered |||
        MessageFlags.ch3Work) (objectSpawnMsg obj) := by
    simp only [objectSpawnPosts, found, Option.toList_some, List.flatMap_cons, List.flatMap_nil,
      List.append_nil]
  rw [posts, ← List.singleton_append]
  refine inv.spread sound connected _ (List.forall_mem_singleton.mpr silent) Nat.le.refl _ ?_
  rintro before c (rfl | rfl) shows_
  · have unfree : ∀ other : ObjectRuntimeState F, Slots.free other = true →
        Slots.Slot.live other = false := fun _ free => by simpa [Slots.free] using free
    have space := Slots.countP_claim unfree slots
    rw [if_pos (show Slots.Slot.live obj = true from live)] at space
    have size := shows_.count inv.sound.distinct
    rw [held]
    refine shows_.spawn (.inr ?_)
    rw [size]
    exact space.symm.trans_le room
  · rw [held] at shows_ ⊢
    have known : ((objectsHeld m.service.session).spawn (objectSpawnMsg obj)
        (objectSpawnMsg obj).objectNetId).isSome := by
      rw [ObjectMap.spawn, Function.update_self]
      rfl
    exact ObjectMap.spawn_spawn (objectSpawnMsg obj) (objectsHeld m.service.session) ▸
      shows_.spawn (.inl known)

theorem ObjectsMirrored.move (inv : ObjectsMirrored m) {after : ServiceState F}
    {msg : MsgObjectMoveRequest F} {obj : ObjectRuntimeState F}
    (found : findObject m.service.session msg.objectNetId = some obj)
    (changed : after.session.objects =
      (updateObject m.service.session msg.objectNetId (.move msg)).objects)
    (connected : Connected connectionId after.session)
    (counted : m.service.nextObjectId ≤ after.nextObjectId) (flags : UInt16) :
    ObjectsMirrored ⟨tlClearOutputs after,
      ((toConnected after.session .objectUpdate flags
        (objectUpdateMsg (obj.move msg) moveMask)).take maxOutputs).foldl
        (applyPost backend connectionId) m.client⟩ := by
  obtain ⟨_, key⟩ := Slots.lookup_key found
  have keeps : ∀ other : ObjectRuntimeState F, Slots.holds msg.objectNetId other = true →
      Slots.holds msg.objectNetId (other.move msg) = true := fun _ same => same
  have sound : ObjectsSound after := by
    refine ⟨changed ▸ inv.sound.distinct.update keeps, fun other listed inUse => ?_⟩
    rw [changed] at listed
    refine UInt32.lt_of_lt_of_le ?_ counted
    rcases Slots.mem_modifyFirst listed with old | ⟨before, old, _, rfl⟩
    · exact inv.sound.below other old inUse
    · exact inv.sound.below before old inUse
  let moveView : ObjectView F → ObjectView F := fun view =>
    ⟨view.formId, msg.position, msg.rotation, view.stateFlags ||| ObjectStateFlags.moved⟩
  have before : objectsHeld m.service.session msg.objectNetId = some (runtimeView obj) :=
    congrArg (Option.map runtimeView) found
  have held : objectsHeld after.session =
      (objectsHeld m.service.session).update (objectUpdateMsg (obj.move msg) moveMask) := by
    have viewed : objectsHeld after.session = Function.update (objectsHeld m.service.session)
        msg.objectNetId ((objectsHeld m.service.session msg.objectNetId).map moveView) := by
      rw [objectsHeld, changed]
      exact Slots.view_update (g := runtimeView) (h := moveView) keeps fun _ => rfl
    rw [viewed, before, ObjectMap.update]
    have id : (objectUpdateMsg (obj.move msg) moveMask).objectNetId = msg.objectNetId := key
    rw [id, before]
    rfl
  refine inv.spread sound connected [] nofun (Nat.zero_le 1) flags ?_
  rintro session c (rfl | rfl) shows_
  · exact held ▸ shows_.update rfl
  · rw [held] at shows_ ⊢
    exact ObjectMap.update_update (objectUpdateMsg (obj.move msg) moveMask)
      (objectsHeld m.service.session) ▸ shows_.update rfl

theorem ObjectsMirrored.scrap (inv : ObjectsMirrored m) {after : ServiceState F}
    {objectNetId : ObjectNetId} (reason : UInt8)
    (removed : after.session.objects = (wsRemoveObject m.service.session objectNetId).objects)
    (connected : Connected connectionId after.session)
    (counted : m.service.nextObjectId ≤ after.nextObjectId) (flags : UInt16) :
    ObjectsMirrored ⟨tlClearOutputs after,
      ((toConnected after.session .objectDespawn flags
        { objectNetId, reason }).take maxOutputs).foldl
        (applyPost backend connectionId) m.client⟩ := by
  have sound : ObjectsSound after := by
    refine ⟨removed ▸ inv.sound.distinct.release rfl, fun other listed inUse => ?_⟩
    rw [removed] at listed
    refine UInt32.lt_of_lt_of_le ?_ counted
    rcases Slots.mem_modifyFirst listed with old | ⟨_, _, _, rfl⟩
    · exact inv.sound.below other old inUse
    · cases inUse
  have held : objectsHeld after.session = (objectsHeld m.service.session).despawn objectNetId := by
    rw [objectsHeld, removed]
    exact Slots.view_release inv.sound.distinct rfl
  refine inv.spread sound connected [] nofun (Nat.zero_le 1) flags ?_
  rintro session c (rfl | rfl) shows_
  · exact held ▸ shows_.despawn objectNetId
  · rw [held] at shows_ ⊢
    exact ObjectMap.despawn_despawn objectNetId (objectsHeld m.service.session) ▸
      shows_.despawn objectNetId

theorem mirrorStep_objectsMirrored [LawfulWireFloat F] (inv : ObjectsMirrored m) (e : NetworkEvent)
    (fit : ObjectsFit backend connectionId m e) :
    ObjectsMirrored (mirrorStep backend connectionId m e) := by
  obtain ⟨posts, after, taken, stepped⟩ := mirrorStep_posts backend connectionId inv.cleared e
  rw [ObjectsFit, stepped] at fit
  have connected : Connected connectionId m.service.session := fit.1
  have room : after.session.objects.slots.countP (·.inUse) ≤ 256 := fit.2.1
  have counted : m.service.nextObjectId ≤ after.nextObjectId := fit.2.2
  rw [stepped]
  cases taken with
  | tick =>
      refine inv.keep ?_ counted fun p member => tickPosts_harmless member
      rw [tlTick_posts, tickSession_frame]
  | envelope outcome =>
      cases outcome with
      | ignored => exact inv.keep rfl counted nofun
      | @seated _ _ _ taken _ _ _ _ takes _ isPrefix =>
          have objects : taken.session.objects = m.service.session.objects := by
            obtain ⟨_, _, _, frame⟩ := takeSeat_frame takes
            rw [frame]
            rfl
          refine inv.keep objects counted fun p member => ?_
          have known := helloPosts_harmless (objects ▸ inv.sound.distinct) (isPrefix.subset member)
          rw [objectsHeld, objects] at known
          exact known
      | kept _ _ personal =>
          refine inv.keep rfl counted fun p member => ?_
          rcases personal p member with pong | state
          · exact .inl (by rw [pong]; rfl)
          · exact .inl (by rw [state]; rfl)
      | left _ posted =>
          exact inv.keep rfl counted fun p member => toConnected_harmless rfl (posted ▸ member)
      | hit _ _ _ _ _ shot posted =>
          subst shot
          exact inv.keep rfl counted fun p member => hitPosts_harmless (posted ▸ member)
      | refused _ _ _ posted =>
          refine inv.keep rfl counted fun p member => ?_
          rw [posted, List.mem_singleton] at member
          exact .inl (by rw [member]; rfl)
      | @built change player _ _ _ _ _ claimed placed posted =>
          subst placed posted
          have still : Connected connectionId (heard m.service player.playerId).session := by
            rw [Connected, connections_heard]
            exact connected
          refine inv.build rfl rfl claimed rfl rfl ?_ room counted rfl
          exact still
      | moved found changed posted =>
          subst changed posted
          refine inv.move found rfl ?_ counted _
          exact connected
      | scrapped _ removed posted =>
          subst removed posted
          refine inv.scrap _ rfl ?_ counted _
          exact connected
      | selected applied =>
          obtain ⟨dialogue, rfl⟩ := dspApplySelection_frame applied
          exact inv.keep rfl counted nofun

instance (m : Mirror F U) (e : NetworkEvent) : Decidable (ObjectsFit backend connectionId m e) :=
  inferInstanceAs (Decidable (_ ∧ _ ∧ _))

/-- From an empty session and an empty table on, a client that stays connected shows after every
step exactly the objects in use. -/
theorem run_objectsMirrored [LawfulWireFloat F] (backend : RemoteProxyBackend F U)
    (connectionId : UInt32) (m : Mirror F U) (events : List NetworkEvent)
    (cleared : m.service.ctx.outputs = [])
    (noObjects : ∀ obj ∈ m.service.session.objects.slots, obj.inUse = false)
    (noProxies : ∀ record ∈ m.client.objects.slots, record.inUse = false)
    (fit : Along (mirrorStep backend connectionId) (ObjectsFit backend connectionId) m events) :
    let after := run (mirrorStep backend connectionId) m events
    Slots.Distinct after.service.session.objects.slots ∧
      Slots.Distinct after.client.objects.slots ∧
      objectsShown after.client.objects = objectsHeld after.service.session := by
  intro after
  have start : ObjectsMirrored m := by
    refine ⟨cleared, ⟨.of_unused noObjects, fun obj listed inUse => ?_⟩, .of_unused noProxies, ?_⟩
    · rw [noObjects obj listed] at inUse
      cases inUse
    · funext id
      rw [objectsShown, objectsHeld, Slots.view, Slots.view, Slots.lookup_of_unused noProxies,
        Slots.lookup_of_unused noObjects]
      rfl
  have mirrored : ObjectsMirrored after :=
    run_invariant (fun m e inv fit => mirrorStep_objectsMirrored inv e fit) start fit
  exact ⟨mirrored.sound.distinct, mirrored.shows_.distinct, mirrored.shows_.shown⟩

end Steps

/-- A player builds an object, moves it and scraps it. -/
theorem run_objectsMirrored_one :
    let fresh : ServiceState Binary32 := freshService 1 15 20 [7]
    let place : Vec3f Binary32 := ⟨CFloat.lit 10 1, CFloat.lit 20 1, CFloat.lit 0 1⟩
    let settled := serviceStep fresh (.allocSettlement 3 place (CFloat.lit 512 1) 5)
    let store : ProfileStore := ⟨fun _ => none⟩
    let hello : Body Binary32 .hello := (⟨0, 0⟩, [0x41], [0x41])
    let joined := tlClearOutputs (tlHandleEnvelope store (envelopeOf 100 .hello hello) settled).2
    let build : Body Binary32 .buildRequest := ⟨1, 1, 0, 3, 7, place, zeroRot, 0⟩
    let move : Body Binary32 .objectMoveReq := ⟨2, 1, 0, 1000, place, zeroRot⟩
    let scrap : Body Binary32 .objectScrapReq := ⟨3, 1, 0, 1000⟩
    let events : List NetworkEvent := [.envelope store (envelopeOf 100 .buildRequest build), .tick,
      .envelope store (envelopeOf 100 .objectMoveReq move),
      .envelope store (envelopeOf 100 .objectScrapReq scrap)]
    let after := run (mirrorStep defaultBackend 100) ⟨joined, freshClient 1 ()⟩ events
    Slots.Distinct after.service.session.objects.slots ∧
      Slots.Distinct after.client.objects.slots ∧
      objectsShown after.client.objects = objectsHeld after.service.session := by
  intro fresh place settled store hello joined build move scrap events
  have fit : Along (mirrorStep defaultBackend 100) (ObjectsFit defaultBackend 100)
      ⟨joined, freshClient 1 ()⟩ events := by decide +kernel
  exact run_objectsMirrored defaultBackend 100 ⟨joined, freshClient 1 ()⟩ events (by decide +kernel)
    (by decide +kernel) nofun fit

end F4MP.System

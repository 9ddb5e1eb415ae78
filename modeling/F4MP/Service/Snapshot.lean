import F4MP.Service.Alignment
import F4MP.Service.Isolation

/-!
# The snapshot of a join

A player who is let in is sent the other players, and the actors and objects around it, behind the
five messages that answer its HELLO. The queue holds 64 messages for all of that.
-/

namespace F4MP.Service
open SoftFloat CFloat Protocol MessageFlags

variable {F : Type}

/-! ## What there is to send -/

def otherPlayers (s : SessionState F) (id : PlayerId) : List (PlayerRuntimeState F) :=
  s.players.slots.filter fun p => p.connected && p.playerId != id

section World
variable [CFloat F]

def replayRadius (s : SessionState F) : F :=
  if le s.bubble.radius (lit 0 1) then lit 512 1 else s.bubble.radius

def actorsNear (s : SessionState F) (center : Vec3f F) : List (ActorRuntimeState F) :=
  s.actors.slots.filter fun a =>
    a.inUse && !outsideReplay center (replayRadius s) a.replicatedState.position

def objectsNear (s : SessionState F) (center : Vec3f F) : List (ObjectRuntimeState F) :=
  s.objects.slots.filter fun o => o.inUse && !outsideReplay center (replayRadius s) o.position

/-- The snapshot of a session, as it is sent to one connection. -/
def snapshotPosts (s : SessionState F) (connectionId : UInt32) (id : PlayerId) (center : Vec3f F) :
    List (Post F) :=
  (otherPlayers s id).map (fun p => ⟨connectionId, .playerState, ch1World, p.replicatedState⟩) ++
    (actorsNear s center).flatMap (fun a =>
      [⟨connectionId, .actorSpawn, reliable ||| ordered ||| ch1World, actorSpawnMsg a⟩,
        ⟨connectionId, .actorState, ch1World, a.replicatedState⟩]) ++
    (objectsNear s center).map fun o =>
      ⟨connectionId, .objectSpawn, reliable ||| ordered ||| ch3Work, objectSpawnMsg o⟩

theorem snapshotPosts_length (s : SessionState F) (connectionId : UInt32) (id : PlayerId)
    (center : Vec3f F) : (snapshotPosts s connectionId id center).length =
      (otherPlayers s id).length + 2 * (actorsNear s center).length +
        (objectsNear s center).length := by
  simp only [snapshotPosts, List.length_append, List.length_map, List.length_flatMap,
    List.length_cons, List.length_nil, List.map_const', List.sum_replicate_nat]
  omega

omit [CFloat F] in
theorem replayCenter_eq {slots : List (PlayerRuntimeState F)} {id : PlayerId}
    {player : PlayerRuntimeState F}
    (sole : ∀ q ∈ slots, q.connected = true → q.playerId = id → q = player) (center : Vec3f F)
    (reached : (player ∈ slots ∧ player.connected = true ∧ player.playerId = id) ∨
      center = player.replicatedState.position) :
    slots.foldl (fun center p =>
      if p.connected && p.playerId == id then p.replicatedState.position else center) center =
        player.replicatedState.position := by
  induction slots generalizing center with
  | nil => exact reached.resolve_left fun held => List.not_mem_nil held.1
  | cons q rest ih =>
      refine ih (fun p listed => sole p (List.mem_cons_of_mem q listed)) _ ?_
      by_cases hit : (q.connected && q.playerId == id) = true
      · dsimp only
        rw [if_pos hit]
        rw [Bool.and_eq_true, beq_iff_eq] at hit
        rw [sole q List.mem_cons_self hit.1 hit.2]
        exact .inr rfl
      · dsimp only
        rw [if_neg hit]
        rcases reached with ⟨listed, connected, named⟩ | already
        · rcases List.mem_cons.mp listed with rfl | later
          · exact absurd (by rw [connected, named, beq_self_eq_true, Bool.true_and]) hit
          · exact .inl ⟨later, connected, named⟩
        · exact .inr already

/-- A replay is a snapshot around the player who has joined. -/
theorem replayPosts_snapshot {s : SessionState F} (connectionId : UInt32) {id : PlayerId}
    {player : PlayerRuntimeState F} (listed : player ∈ s.players.slots)
    (connected : player.connected = true) (named : player.playerId = id)
    (sole : ∀ q ∈ s.players.slots, q.connected = true → q.playerId = id → q = player) :
    replayPosts s connectionId id =
      snapshotPosts s connectionId id player.replicatedState.position := by
  have center := replayCenter_eq sole s.bubble.center (.inl ⟨listed, connected, named⟩)
  simp only [replayPosts, center]
  rfl

end World

/-! ## What a connection is told -/

section Told
variable [WireFloat F]

/-- The messages of one type that are queued for a connection. -/
def told (type : MessageType) (connectionId : UInt32) (outputs : List TransportOutput) :
    List (Body F type) :=
  outputs.filterMap fun output =>
    if output.connectionId = connectionId then messageOf? type output.bytes else none

omit [WireFloat F] in
def Post.body? (type : MessageType) (p : Post F) : Option (Body F type) :=
  if same : p.type = type then some (same ▸ p.body) else none

omit [WireFloat F] in
@[simp] theorem body?_same (connectionId : UInt32) (type : MessageType) (flags : UInt16)
    (body : Body F type) : Post.body? type ⟨connectionId, type, flags, body⟩ = some body :=
  dif_pos rfl

omit [WireFloat F] in
theorem body?_other {type : MessageType} {p : Post F} (other : p.type ≠ type) :
    p.body? type = none := dif_neg other

variable [LawfulWireFloat F]

theorem messageOf?_output {p : Post F} (sendable : Sendable p.type p.body) (sessionId : SessionId)
    (number : UInt32) (type : MessageType) :
    messageOf? type (p.output sessionId number).bytes = p.body? type := by
  have carries := packetBytes_carries sendable sessionId number p.flags
  by_cases same : p.type = type
  · subst same
    rw [Post.body?, dif_pos rfl]
    exact messageOf?_eq_some.mpr carries
  · rw [Post.body?, dif_neg same, Option.eq_none_iff_forall_ne_some]
    exact fun body found => same (carries.type_unique (messageOf?_eq_some.mp found))

theorem told_stamp {posts : List (Post F)} (sendable : ∀ p ∈ posts, Sendable p.type p.body)
    {connectionId : UInt32} (addressed : ∀ p ∈ posts, p.connectionId = connectionId)
    (sessionId : SessionId) (sequence : UInt32) (type : MessageType) :
    told type connectionId (stamp sessionId sequence posts) = posts.filterMap (·.body? type) := by
  induction posts generalizing sequence with
  | nil => rfl
  | cons p posts ih =>
      have rest := ih (fun q later => sendable q (List.mem_cons_of_mem p later))
        (fun q later => addressed q (List.mem_cons_of_mem p later)) (sequence + 1)
      have here : (p.output sessionId (sequence + 1)).connectionId = connectionId :=
        addressed p List.mem_cons_self
      rw [told] at rest ⊢
      rw [stamp, List.filterMap_cons, if_pos here,
        messageOf?_output (sendable p List.mem_cons_self), rest, List.filterMap_cons]

omit [WireFloat F] [LawfulWireFloat F] in
theorem told_length (type : MessageType) (posts : List (Post F)) :
    (posts.filterMap (·.body? type)).length = posts.countP (·.type == type) := by
  induction posts with
  | nil => rfl
  | cons p posts ih =>
      by_cases same : p.type = type
      · have body : p.body? type = some (same ▸ p.body) := dif_pos same
        rw [List.filterMap_cons_some body, List.length_cons, ih, List.countP_cons_of_pos]
        exact beq_iff_eq.mpr same
      · have body : p.body? type = none := dif_neg same
        rw [List.filterMap_cons_none body, ih, List.countP_cons_of_neg]
        exact mt beq_iff_eq.mp same

omit [WireFloat F] [LawfulWireFloat F] in
theorem snapshot_count (posts : List (Post F)) :
    posts.countP (·.type == .playerState) + posts.countP (·.type == .actorSpawn) +
      posts.countP (·.type == .actorState) + posts.countP (·.type == .objectSpawn) ≤
        posts.length := by
  have one : ∀ type : MessageType, (if type == .playerState then 1 else 0) +
      (if type == .actorSpawn then 1 else 0) + (if type == .actorState then 1 else 0) +
      (if type == .objectSpawn then 1 else 0) ≤ 1 := by
    intro type
    cases type <;> decide
  induction posts with
  | nil => exact Nat.le_refl 0
  | cons p posts ih =>
      have here := one p.type
      simp only [List.countP_cons, List.length_cons]
      omega

end Told

/-! ## Complete snapshots -/

section Complete
variable [CFloat F] [WireFloat F]

/-- Every other player, every actor and every object near the center is among the messages that are
queued for the connection, each actor as a spawn and then its state. -/
structure SnapshotComplete (s : SessionState F) (connectionId : UInt32) (id : PlayerId)
    (center : Vec3f F) (outputs : List TransportOutput) : Prop where
  players : ((otherPlayers s id).map (·.replicatedState)).Sublist
    (told .playerState connectionId outputs)
  spawns : ((actorsNear s center).map actorSpawnMsg).Sublist (told .actorSpawn connectionId outputs)
  states : ((actorsNear s center).map (·.replicatedState)).Sublist
    (told .actorState connectionId outputs)
  spawnsFirst : ∀ a ∈ actorsNear s center, ∃ (i : Nat) (spawn state : TransportOutput),
    outputs[i]? = some spawn ∧ outputs[i + 1]? = some state ∧
    spawn.connectionId = connectionId ∧ state.connectionId = connectionId ∧
    Carries spawn.bytes .actorSpawn (actorSpawnMsg a) ∧
    Carries state.bytes .actorState a.replicatedState
  objects : ((objectsNear s center).map objectSpawnMsg).Sublist
    (told .objectSpawn connectionId outputs)

variable [LawfulWireFloat F]

omit [WireFloat F] [LawfulWireFloat F] in
theorem snapshotPosts_bodies (s : SessionState F) (connectionId : UInt32) (id : PlayerId)
    (center : Vec3f F) :
    let posts := snapshotPosts s connectionId id center
    posts.filterMap (·.body? .playerState) = (otherPlayers s id).map (·.replicatedState) ∧
      posts.filterMap (·.body? .actorSpawn) = (actorsNear s center).map actorSpawnMsg ∧
      posts.filterMap (·.body? .actorState) = (actorsNear s center).map (·.replicatedState) ∧
      posts.filterMap (·.body? .objectSpawn) = (objectsNear s center).map objectSpawnMsg := by
  intro posts
  have other : ∀ {type type' : MessageType} (flags : UInt16) (body : Body F type'),
      type' ≠ type → Post.body? type ⟨connectionId, type', flags, body⟩ = none :=
    fun _ _ different => body?_other different
  simp only [posts, snapshotPosts]
  refine ⟨?_, ?_, ?_, ?_⟩
  · simp [List.filterMap_flatMap, other]
  · simpa [List.filterMap_flatMap, other] using List.map_eq_flatMap.symm
  · simpa [List.filterMap_flatMap, other] using List.map_eq_flatMap.symm
  · simp [List.filterMap_flatMap, other]

omit [WireFloat F] [LawfulWireFloat F] in
theorem snapshotPosts_spawnFirst {s : SessionState F} {connectionId : UInt32} {id : PlayerId}
    {center : Vec3f F} {a : ActorRuntimeState F} (near : a ∈ actorsNear s center) :
    ∃ before after, snapshotPosts s connectionId id center = before ++
      ⟨connectionId, .actorSpawn, reliable ||| ordered ||| ch1World, actorSpawnMsg a⟩ ::
        ⟨connectionId, .actorState, ch1World, a.replicatedState⟩ :: after := by
  obtain ⟨front, back, split⟩ := List.append_of_mem near
  rw [snapshotPosts, split, List.flatMap_append, List.flatMap_cons]
  simp only [List.append_assoc, List.cons_append, List.nil_append]
  exact ⟨_, _, (List.append_assoc _ _ _).symm⟩

omit [WireFloat F] [LawfulWireFloat F] in
theorem snapshotPosts_addressed {s : SessionState F} {connectionId : UInt32} {id : PlayerId}
    {center : Vec3f F} {p : Post F} (listed : p ∈ snapshotPosts s connectionId id center) :
    p.connectionId = connectionId := by
  simp only [snapshotPosts, List.mem_append, List.mem_map, List.mem_flatMap, List.mem_cons,
    List.not_mem_nil, or_false] at listed
  rcases listed with (⟨_, _, rfl⟩ | ⟨_, _, rfl | rfl⟩) | ⟨_, _, rfl⟩ <;> rfl

omit [CFloat F] [LawfulWireFloat F] in
theorem stamp_pair (sessionId : SessionId) (sequence : UInt32) (before after : List (Post F))
    (p q : Post F) : ∃ i number,
      (stamp sessionId sequence (before ++ p :: q :: after))[i]? = some (p.output sessionId number) ∧
      (stamp sessionId sequence (before ++ p :: q :: after))[i + 1]? =
        some (q.output sessionId (number + 1)) := by
  induction before generalizing sequence with
  | nil => exact ⟨0, sequence + 1, rfl, rfl⟩
  | cons front before ih =>
      obtain ⟨i, number, atP, atQ⟩ := ih (sequence + 1)
      exact ⟨i + 1, number, atP, atQ⟩

/-- What is queued for the joining connection is complete if and only if all of it was queued. -/
theorem snapshotComplete_iff {s : SessionState F} {connectionId : UInt32} {id : PlayerId}
    {center : Vec3f F} {answer : List (Post F)} (size : answer.length = 5)
    (answered : ∀ p ∈ answer, p.type ∉ [MessageType.playerState, .actorSpawn, .actorState,
      .objectSpawn])
    (sendable : ∀ p ∈ answer ++ snapshotPosts s connectionId id center, Sendable p.type p.body)
    (addressed : ∀ p ∈ answer, p.connectionId = connectionId) (sequence : UInt32) :
    SnapshotComplete s connectionId id center ((stamp s.sessionId sequence
        (answer ++ snapshotPosts s connectionId id center)).take maxOutputs) ↔
      5 + (snapshotPosts s connectionId id center).length ≤ maxOutputs := by
  obtain ⟨players, spawns, states, objects⟩ := snapshotPosts_bodies s connectionId id center
  have toJoining : ∀ p ∈ snapshotPosts s connectionId id center, p.connectionId = connectionId :=
    fun p => snapshotPosts_addressed
  have first := fun a => @snapshotPosts_spawnFirst F _ s connectionId id center a
  have total := snapshotPosts_length s connectionId id center
  generalize snapshotPosts s connectionId id center = posts at *
  have fits : ∀ p ∈ answer ++ posts.take 59, Sendable p.type p.body := fun p listed =>
    sendable p ((List.mem_append.mp listed).elim (List.mem_append_left _) fun front =>
      List.mem_append_right _ (List.mem_of_mem_take front))
  have toJoiningAll : ∀ p ∈ answer ++ posts.take 59, p.connectionId = connectionId :=
    fun p listed => (List.mem_append.mp listed).elim (addressed p) fun front =>
      toJoining p (List.mem_of_mem_take front)
  -- The queue has room for the answer and the first 59 posts.
  have queue : (stamp s.sessionId sequence (answer ++ posts)).take maxOutputs =
      stamp s.sessionId sequence (answer ++ posts.take 59) := by
    rw [stamp_take, List.take_append, size, List.take_of_length_le (by rw [size]; decide)]
    rfl
  have hears : ∀ type ∈ [MessageType.playerState, .actorSpawn, .actorState, .objectSpawn],
      told type connectionId (stamp s.sessionId sequence (answer ++ posts.take 59)) =
        (posts.take 59).filterMap (·.body? type) := by
    intro type asked
    have silent : answer.filterMap (·.body? type) = [] :=
      List.filterMap_eq_nil_iff.mpr fun p listed =>
        body?_other fun same => answered p listed (same ▸ asked)
    rw [told_stamp fits toJoiningAll, List.filterMap_append, silent, List.nil_append]
  rw [queue]
  constructor
  · intro complete
    have count := snapshot_count (posts.take 59)
    have short := List.length_take_le 59 posts
    have others := complete.players.length_le
    have spawned := complete.spawns.length_le
    have stated := complete.states.length_le
    have placed := complete.objects.length_le
    rw [hears _ (by simp), told_length, List.length_map] at others spawned stated placed
    rw [total, maxOutputs]
    omega
  · intro room
    have all : posts.take 59 = posts := List.take_of_length_le (by rw [maxOutputs] at room; omega)
    rw [all] at hears ⊢
    refine ⟨?_, ?_, ?_, fun a near => ?_, ?_⟩
    · rw [hears _ (by simp), players]
    · rw [hears _ (by simp), spawns]
    · rw [hears _ (by simp), states]
    · obtain ⟨before, after, split⟩ := first a near
      obtain ⟨i, number, atSpawn, atState⟩ := stamp_pair s.sessionId sequence (answer ++ before) after
        ⟨connectionId, .actorSpawn, reliable ||| ordered ||| ch1World, actorSpawnMsg a⟩
        ⟨connectionId, .actorState, ch1World, a.replicatedState⟩
      rw [List.append_assoc, ← split] at atSpawn atState
      refine ⟨i, _, _, atSpawn, atState, rfl, rfl, ?_, ?_⟩
      · exact packetBytes_carries (sendable_of_plainMessage rfl _) s.sessionId number _
      · exact packetBytes_carries (sendable_of_plainMessage rfl _) s.sessionId (number + 1) _
    · rw [hears _ (by simp), objects]

/-! ## The snapshot behind a HELLO -/

/-- Where a GUID was when it left, and the origin for one that was never there. -/
def joinCenter (s : ServiceState F) (playerGuid : Text) : Vec3f F :=
  match srFindPlayerId s.registry playerGuid with
  | some id => ((s.session.players.slots.find? (·.playerId == id)).map
      (·.replicatedState.position)).getD zeroVec
  | none => zeroVec

/-- How many messages the snapshot for this GUID takes. -/
def snapshotSize (s : ServiceState F) (playerGuid : Text) (id : PlayerId) : Nat :=
  (otherPlayers s.session id).length +
    2 * (actorsNear s.session (joinCenter s playerGuid)).length +
    (objectsNear s.session (joinCenter s playerGuid)).length

/-- The queue has room for the answer to the HELLO of this GUID and for the snapshot behind it. -/
def SnapshotFits (s : ServiceState F) (playerGuid : Text) (id : PlayerId) : Prop :=
  5 + snapshotSize s playerGuid id ≤ maxOutputs

instance (s : ServiceState F) (playerGuid : Text) (id : PlayerId) :
    Decidable (SnapshotFits s playerGuid id) := inferInstanceAs (Decidable (_ ≤ _))

omit [WireFloat F] [LawfulWireFloat F] in
theorem filter_set_of_not {α : Type} {p : α → Bool} {l : List α} {k : Nat} {a : α}
    (written : p a = false) (old : ∀ b, l[k]? = some b → p b = false) :
    (l.set k a).filter p = l.filter p := by
  induction l generalizing k with
  | nil => rfl
  | cons b l ih =>
      cases k with
      | zero =>
          rw [List.set_cons_zero, List.filter_cons_of_neg (by simp [written]),
            List.filter_cons_of_neg (by simp [old b rfl])]
      | succ k =>
          rw [List.set_cons_succ, List.filter_cons, List.filter_cons, ih fun c at_ => old c at_]

omit [WireFloat F] [LawfulWireFloat F] in
theorem TakesSlot.position {s : ServiceState F} (aligned : Aligned s.roster) {playerGuid : Text}
    {connectionId : UInt32} {id : PlayerId} {slot : PlayerRuntimeState F}
    (takes : TakesSlot s playerGuid connectionId id slot) :
    slot.replicatedState.position = joinCenter s playerGuid := by
  rcases takes with ⟨unbound, rfl⟩ | ⟨bound, old, listed, named, rfl⟩
  · rw [joinCenter, unbound]
    rfl
  · have taken : old.playerId ≠ 0 := named ▸ (aligned.bound.find bound).1
    have found : s.session.players.slots.find? (·.playerId == id) = some old := by
      cases scan : s.session.players.slots.find? (·.playerId == id) with
      | none => simpa [named] using List.find?_eq_none.mp scan old listed
      | some q =>
          have hit := List.find?_some scan
          have same : q.playerId = id := beq_iff_eq.mp hit
          rw [aligned.slot_unique listed (List.mem_of_find?_eq_some scan) taken (same.trans named.symm)]
    rw [joinCenter, bound]
    dsimp only
    rw [found]
    rfl

omit [WireFloat F] [LawfulWireFloat F] in
/-- Whoever has joined stands where its GUID was, and the world around it is the one from before. -/
theorem fillSeat_world (store : ProfileStore) {s taken : ServiceState F} (aligned : Aligned s.roster)
    {playerGuid : Text} (playerName : Text) {connectionId : UInt32} {id : PlayerId}
    (takes : takeSeat s playerGuid connectionId = some (id, taken))
    (seatedAligned : Aligned (fillSeat store playerGuid playerName connectionId id taken).roster) :
    let seated := (fillSeat store playerGuid playerName connectionId id taken).session
    (∃ player, findPlayer seated id = some player ∧
      player.replicatedState.position = joinCenter s playerGuid) ∧
    replayPosts seated connectionId id =
      snapshotPosts seated connectionId id (joinCenter s playerGuid) ∧
    otherPlayers seated id = otherPlayers s.session id ∧
    actorsNear seated = actorsNear s.session ∧ objectsNear seated = objectsNear s.session := by
  intro seated
  obtain ⟨slot, takesSlot, _, slots⟩ := fillSeat_slots store aligned playerName takes
  have given := takeSeat_seatFor aligned takes
  obtain ⟨low, high⟩ := aligned.seatFor ((seatFor_roster s playerGuid).symm.trans given)
  obtain ⟨player, playerIs⟩ : ∃ player, player =
    fillSlot store playerGuid playerName connectionId taken.ctx.currentTick slot := ⟨_, rfl⟩
  rw [← playerIs] at slots
  have connected : player.connected = true := playerIs ▸ takesSlot.seated.1
  have named : player.playerId = id := playerIs ▸ takesSlot.seated.2
  have position : player.replicatedState.position = joinCenter s playerGuid :=
    playerIs ▸ takesSlot.position aligned
  have inside : id.toNat - 1 < s.session.players.slots.length := by
    rw [s.session.players.size, maxPlayersPerSession]
    omega
  have at_ : seated.players.slots[id.toNat - 1]? = some player := by
    rw [slots, List.getElem?_set_self inside]
  have listed := List.mem_of_getElem? at_
  have sole : ∀ q ∈ seated.players.slots, q.connected = true → q.playerId = id → q = player :=
    fun q member _ same => seatedAligned.slot_unique listed member
      (seatedAligned.connected_ne_zero listed connected) (same.trans named.symm)
  obtain ⟨players, connectedCount, registry, frame⟩ := takeSeat_frame takes
  have actors : seated.actors = s.session.actors := by simp only [seated, frame]; rfl
  have objects : seated.objects = s.session.objects := by simp only [seated, frame]; rfl
  have bubble : seated.bubble = s.session.bubble := by simp only [seated, frame]; rfl
  have radius : replayRadius seated = replayRadius s.session := by
    rw [replayRadius, replayRadius, bubble]
  refine ⟨⟨player, ?_, position⟩, ?_, ?_, ?_, ?_⟩
  · have resolved := Placed.findPlayer_eq seatedAligned.placed at_ connected
    rwa [named] at resolved
  · rw [replayPosts_snapshot connectionId listed connected named sole, position]
  · rw [otherPlayers, slots]
    refine filter_set_of_not (by simp [named]) fun old before => ?_
    rcases aligned.placed _ _ (seats_get before) with ⟨free, _⟩ | ⟨number, _⟩
    · rw [show old.connected = false from free, Bool.false_and]
    · have same : old.playerId = id := UInt16.toNat_inj.mp (by
        simp only [PlayerRuntimeState.seat] at number
        omega)
      simp [same]
  · funext center
    rw [actorsNear, actorsNear, actors, radius]
  · funext center
    rw [objectsNear, objectsNear, objects, radius]

/-- The snapshot that an accepted HELLO is answered with is complete if and only if the queue has room
for it. -/
theorem joinSnapshot_iff (store : ProfileStore) {env : TransportEnvelope} {s : ServiceState F}
    (reachable : Reachable s) (empty : s.ctx.outputs = []) {playerGuid playerName : Text}
    (hello : helloOf? env.bytes = some (playerGuid, playerName))
    (accepted : (tlHandleEnvelope store env s).1 = true) {id : PlayerId}
    (given : s.seatFor playerGuid = some id) :
    let after := (tlHandleEnvelope store env s).2
    (∃ player, findPlayer after.session id = some player ∧ SnapshotComplete after.session
      env.connectionId id player.replicatedState.position after.ctx.outputs) ↔
        SnapshotFits s playerGuid id := by
  intro after
  have alignedAfter : Aligned after.roster :=
    serviceStep_aligned reachable.aligned (.envelope store env)
  obtain ⟨sequence, id', taken, slot, takes, found, eq⟩ := tlHandleEnvelope_accepted hello accepted
  have aligned : Aligned (received s sequence).roster := reachable.aligned
  obtain rfl : id = id' := Option.some.inj (given.symm.trans (takeSeat_seatFor aligned takes))
  obtain ⟨seated, seatedIs⟩ : ∃ seated, seated =
    fillSeat store playerGuid playerName env.connectionId id taken := ⟨_, rfl⟩
  have seatedAligned : Aligned seated.roster := by
    rw [seatedIs]
    simp only [after, eq] at alignedAfter
    exact alignedAfter
  obtain ⟨⟨player, resolved, position⟩, replay, others, actors, objects⟩ :=
    fillSeat_world store aligned playerName takes (seatedIs ▸ seatedAligned)
  have queue : seated.ctx.outputs = [] := by
    obtain ⟨_, _, _, frame⟩ := takeSeat_frame takes
    rw [seatedIs, frame]
    exact empty
  have sendable := helloPosts_sendable store playerGuid playerName env.connectionId id slot taken
  have posted : after = seated.post
      (helloPosts store playerGuid playerName env.connectionId id slot taken) := seatedIs ▸ eq
  have session : after.session = seated.session := by rw [posted, post_session]
  have outputs : after.ctx.outputs = queuedPosts seated
      (helloPosts store playerGuid playerName env.connectionId id slot taken) := by
    rw [posted, post_outputs sendable, queue, List.nil_append]
  have unique : (∃ player, findPlayer after.session id = some player ∧ SnapshotComplete after.session
      env.connectionId id player.replicatedState.position after.ctx.outputs) ↔
      SnapshotComplete seated.session env.connectionId id (joinCenter s playerGuid)
        after.ctx.outputs := by
    rw [session]
    rw [← seatedIs] at resolved
    constructor
    · rintro ⟨other, found, complete⟩
      obtain rfl := Option.some.inj (found.symm.trans resolved)
      exact position ▸ complete
    · intro complete
      exact ⟨player, resolved, position.symm ▸ complete⟩
  rw [← seatedIs] at replay others actors objects
  rw [helloPosts, ← seatedIs, replay] at sendable
  rw [unique, outputs, queuedPosts, queue, helloPosts, ← seatedIs, replay]
  refine (snapshotComplete_iff rfl ?_ sendable ?_ _).trans ?_
  · simp [answerPosts, welcomePost, profilePosts]
  · simp [answerPosts, welcomePost, profilePosts]
  · rw [snapshotPosts_length, others, actors, objects]
    exact Iff.rfl

end Complete

/-! ## Two worlds -/

/-- A session with some hostiles at the origin. -/
def hostileWorld (hostiles : Nat) : ServiceState Binary32 :=
  Transition.run serviceStep (freshService 1 15 20 [])
    (List.replicate hostiles (.spawnHostile 7 zeroVec))

def firstHello : TransportEnvelope := envelopeOf (F := Binary32) 100 .hello (⟨0, 0⟩, [0x41], [])

/-- One hostile and its state fit behind the answer. -/
theorem joinSnapshot_iff_one :
    let after := (tlHandleEnvelope ⟨fun _ => none⟩ firstHello (hostileWorld 1)).2
    ∃ player, findPlayer after.session 1 = some player ∧ SnapshotComplete after.session 100 1
      player.replicatedState.position after.ctx.outputs := by
  have reachable : Reachable (hostileWorld 1) := ⟨1, 15, 20, [], _, rfl⟩
  have hello : helloOf? firstHello.bytes = some ([0x41], []) := by decide +kernel
  exact (joinSnapshot_iff ⟨fun _ => none⟩ reachable (by decide +kernel) hello (by decide +kernel)
    (by decide +kernel)).mpr (by decide +kernel)

/-- Thirty hostiles do not: the state of the last one is dropped. -/
theorem joinSnapshot_thirty :
    let s := hostileWorld 30
    let after := (tlHandleEnvelope ⟨fun _ => none⟩ firstHello s).2
    Reachable s ∧ s.ctx.outputs = [] ∧ (tlHandleEnvelope ⟨fun _ => none⟩ firstHello s).1 = true ∧
      ¬ ∃ player, findPlayer after.session 1 = some player ∧ SnapshotComplete after.session 100 1
        player.replicatedState.position after.ctx.outputs := by
  intro s after
  refine ⟨⟨1, 15, 20, [], _, rfl⟩, by decide +kernel, by decide +kernel, ?_⟩
  rintro ⟨player, found, complete⟩
  have missing : (findPlayer after.session 1).all (fun player =>
      decide ((told (F := Binary32) .actorState 100 after.ctx.outputs).length <
        (actorsNear after.session player.replicatedState.position).length)) = true := by
    decide +kernel
  have fewer := of_decide_eq_true ((Option.all_eq_true _ _).mp missing player found)
  have enough := complete.states.length_le
  rw [List.length_map] at enough
  omega

end F4MP.Service

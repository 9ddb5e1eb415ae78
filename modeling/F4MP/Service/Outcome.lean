import F4MP.Service.Post

/-!
# What an envelope does

One inversion of `tl_handle_envelope`: every way an envelope can end, with the state it leaves and
the messages it has posted. What the service preserves is read off from it case by case.
-/

namespace F4MP.Service
open SoftFloat CFloat Protocol Wire MessageFlags

variable {F : Type}

/-! ## Seats -/

/-- What binds a slot to a player and to a connection. -/
structure Seat where
  connected : Bool
  playerId : PlayerId
  connectionId : UInt32
  playerGuid : Text
  deriving DecidableEq

def PlayerRuntimeState.seat (p : PlayerRuntimeState F) : Seat :=
  ⟨p.connected, p.playerId, p.connectionId, p.profileRef.playerGuid⟩

def SessionState.seats (s : SessionState F) : List Seat := s.players.slots.map (·.seat)

theorem updatePlayer_comp (s : SessionState F) (playerId : PlayerId)
    {f g : PlayerRuntimeState F → PlayerRuntimeState F} (keeps : ∀ p, (f p).seat = p.seat) :
    updatePlayer (updatePlayer s playerId f) playerId g = updatePlayer s playerId (g ∘ f) := by
  simp only [updatePlayer, PlayerTable.modifyFirst]
  congr 2
  refine Slots.modifyFirst_modifyFirst fun p held => ?_
  have same := keeps p
  simp only [PlayerRuntimeState.seat, Seat.mk.injEq] at same
  rw [same.1, same.2.1]
  exact held

theorem seats_updatePlayer (s : SessionState F) (playerId : PlayerId)
    {f : PlayerRuntimeState F → PlayerRuntimeState F} (keeps : ∀ p, (f p).seat = p.seat) :
    (updatePlayer s playerId f).seats = s.seats :=
  Slots.map_modifyFirst fun p _ => keeps p

theorem connections_of_seats {s s' : SessionState F} (same : s'.seats = s.seats) :
    connections s' = connections s := by
  have seated : ∀ t : SessionState F, connections t =
      (t.seats.filter (·.connected)).map (·.connectionId) := by
    intro t
    rw [SessionState.seats, List.filter_map, List.map_map, connections]
    rfl
  rw [seated, seated, same]

theorem findPlayer_updatePlayer (s : SessionState F) (playerId : PlayerId)
    {f : PlayerRuntimeState F → PlayerRuntimeState F} (keeps : ∀ p, (f p).seat = p.seat) :
    findPlayer (updatePlayer s playerId f) playerId = (findPlayer s playerId).map f := by
  refine Slots.find?_modifyFirst_self fun p held => ?_
  have same := keeps p
  simp only [PlayerRuntimeState.seat, Seat.mk.injEq] at same
  rw [same.1, same.2.1]
  exact held

def hear (tick : UInt32) (p : PlayerRuntimeState F) : PlayerRuntimeState F :=
  { p with lastHeardTick := tick }

theorem seats_heard (s : ServiceState F) (playerId : PlayerId) :
    (heard s playerId).session.seats = s.session.seats := seats_updatePlayer _ _ fun _ => rfl

theorem connections_heard (s : ServiceState F) (playerId : PlayerId) :
    connections (heard s playerId).session = connections s.session :=
  connections_of_seats (seats_heard s playerId)

/-! ## The authority handlers -/

section Authority
variable [CFloat F]

/-- The score of an actor as a target, which a live hostile in the cone has. -/
def targetScore (origin dir : Vec3f F) (a : ActorRuntimeState F) : Option F :=
  if a.inUse && !a.dead && a.hostile then
    cgTargetWithinCone origin dir a.replicatedState.position avDefaultCombatGeometry
  else none

theorem targetScore_live {origin dir : Vec3f F} {a : ActorRuntimeState F} {score : F}
    (scored : targetScore origin dir a = some score) :
    (a.inUse = true ∧ a.dead = false ∧ a.hostile = true) ∧
      cgTargetWithinCone origin dir a.replicatedState.position avDefaultCombatGeometry =
        some score := by
  unfold targetScore at scored
  split at scored
  · rename_i live
    simp only [Bool.and_eq_true, Bool.not_eq_true'] at live
    exact ⟨⟨live.1.1, live.1.2, live.2⟩, scored⟩
  · cases scored

theorem considerTarget_eq (origin dir : Vec3f F) (best : Option (Nat × F))
    (slot : ActorRuntimeState F × Nat) :
    considerTarget origin dir best slot = match targetScore origin dir slot.1 with
      | none => best
      | some totalScore => match best with
        | none => some (slot.2, totalScore)
        | some (_, bestScore) =>
            if lt bestScore totalScore then some (slot.2, totalScore) else best := by
  obtain ⟨a, i⟩ := slot
  simp only [considerTarget, targetScore]
  split <;> rfl

theorem considerTarget_target {origin dir : Vec3f F} {best : Option (Nat × F)}
    {slot : ActorRuntimeState F × Nat} {i : Nat} {score : F}
    (chosen : considerTarget origin dir best slot = some (i, score)) :
    best = some (i, score) ∨ (i = slot.2 ∧ targetScore origin dir slot.1 = some score) := by
  rw [considerTarget_eq] at chosen
  split at chosen
  · exact .inl chosen
  · rename_i totalScore scored
    have target : some (slot.2, totalScore) = some (i, score) →
        i = slot.2 ∧ targetScore origin dir slot.1 = some score := by
      rintro same
      cases same
      exact ⟨rfl, scored⟩
    split at chosen
    · exact .inr (target chosen)
    · split at chosen
      · exact .inr (target chosen)
      · exact .inl chosen

theorem bestTarget_scored {s : SessionState F} {msg : MsgFireIntent F} {i : Nat} {score : F}
    (chosen : bestTarget s msg = some (i, score)) : ∃ target, s.actors.slots[i]? = some target ∧
      targetScore msg.origin ((cgNormalize msg.direction).getD msg.direction) target =
        some score := by
  have scan : ∀ (slots : List (ActorRuntimeState F × Nat)) (best : Option (Nat × F)),
      slots.foldl (considerTarget msg.origin ((cgNormalize msg.direction).getD msg.direction)) best =
        some (i, score) →
      best = some (i, score) ∨ ∃ slot ∈ slots, i = slot.2 ∧
        targetScore msg.origin ((cgNormalize msg.direction).getD msg.direction) slot.1 =
          some score := by
    intro slots
    induction slots with
    | nil => exact fun _ found => .inl found
    | cons slot rest ih =>
        intro best found
        rcases ih _ found with here | ⟨later, member, scored⟩
        · rcases considerTarget_target here with before | scored
          · exact .inl before
          · exact .inr ⟨slot, List.mem_cons_self, scored⟩
        · exact .inr ⟨later, List.mem_cons_of_mem slot member, scored⟩
  rcases scan _ none chosen with none | ⟨⟨target, j⟩, member, rfl, scored⟩
  · cases none
  · exact ⟨target, List.mem_zipIdx_iff_getElem?.mp member, scored⟩

theorem bestTarget_target {s : SessionState F} {msg : MsgFireIntent F} {i : Nat} {score : F}
    (chosen : bestTarget s msg = some (i, score)) :
    ∃ target, s.actors.slots[i]? = some target ∧ target.inUse = true ∧ target.dead = false ∧
      target.hostile = true := by
  obtain ⟨target, at_, scored⟩ := bestTarget_scored chosen
  exact ⟨target, at_, (targetScore_live scored).1⟩

def hitDamage (attacker : PlayerId) (target : ActorRuntimeState F) : MsgDamageResult F where
  attackerId := attacker.toUInt32
  victimActorNetId := target.actorNetId
  damageAmount := lit 1 4
  damageType := dmgBallistic
  reserved0 := 0
  flags := if le target.hit.replicatedState.healthNorm (lit 0 1) then DamageResultFlags.killed else 0
  healthAfter := target.hit.replicatedState.healthNorm

def hitDeath (attacker : PlayerId) (target : ActorRuntimeState F) : MsgDeathEvent :=
  ⟨target.actorNetId, attacker.toUInt32, target.actorNetId ^^^ 0xA5A5A5A5⟩

def FireOutcome.miss (s : SessionState F) : FireOutcome F where
  session := s
  damage := ⟨0, 0, lit 0 1, 0, 0, 0, lit 0 1⟩
  death := none

theorem FireOutcome.miss_victim (s : SessionState F) :
    (FireOutcome.miss s).damage.victimActorNetId = 0 := rfl

/-- A fire intent is refused, misses, or hits one live hostile actor. -/
theorem acHandleFireIntent_cases {s : SessionState F} {msg : MsgFireIntent F}
    {outcome : FireOutcome F} (fired : acHandleFireIntent s msg = some outcome) :
    outcome = .miss s ∨
    ∃ i target, s.actors.slots[i]? = some target ∧ target.inUse = true ∧ target.dead = false ∧
      target.hostile = true ∧ outcome = {
        session := { s with actors := s.actors.modify i ActorRuntimeState.hit }
        damage := hitDamage msg.playerId target
        death := if le target.hit.replicatedState.healthNorm (lit 0 1) then
            some (hitDeath msg.playerId target) else none } := by
  simp only [acHandleFireIntent] at fired
  split at fired
  · cases fired
  · split at fired
    · exact .inl (Option.some.inj fired).symm
    · rename_i i bestScore chosen
      obtain ⟨target, at_, live⟩ := bestTarget_target chosen
      rw [at_] at fired
      simp only at fired
      split at fired
      · exact .inl (Option.some.inj fired).symm
      · exact .inr ⟨i, target, at_, live.1, live.2.1, live.2.2, (Option.some.inj fired).symm⟩

def builtObject (objectNetId : ObjectNetId) (msg : MsgBuildRequest F) : ObjectRuntimeState F where
  inUse := true
  objectNetId := objectNetId
  formId := msg.formId
  settlementId := msg.settlementId
  position := msg.position
  rotation := msg.rotation
  stateFlags := ObjectStateFlags.placedByPlayer
  ownerPlayerId := msg.playerId

theorem acHandleBuildRequest_cases (s : SessionState F) (whitelist : List UInt32)
    (nextObjectId : ObjectNetId) (msg : MsgBuildRequest F) :
    let outcome := acHandleBuildRequest s whitelist nextObjectId msg
    (outcome.session = s ∧ outcome.result.accepted = 0 ∧
      (outcome.nextObjectId = nextObjectId ∨ outcome.nextObjectId = nextObjectId + 1)) ∨
    ∃ objects change, s.objects.claim Slots.free (builtObject nextObjectId msg) = some objects ∧
      outcome = {
        session := updateSettlement { s with objects } msg.settlementId change
        result := ⟨msg.requestId, 1, BuildResultReason.ok, 0, nextObjectId⟩
        nextObjectId := nextObjectId + 1 } := by
  intro outcome
  simp only [outcome, acHandleBuildRequest, wsAllocObject]
  split
  · exact .inl ⟨rfl, rfl, .inl rfl⟩
  · split
    · exact .inl ⟨rfl, rfl, .inr rfl⟩
    · rename_i placed
      obtain ⟨objects, claimed, rfl⟩ := Option.map_eq_some_iff.mp placed
      exact .inr ⟨objects, _, claimed, rfl⟩

def ObjectRuntimeState.move (msg : MsgObjectMoveRequest F) (obj : ObjectRuntimeState F) :
    ObjectRuntimeState F :=
  { obj with
    position := msg.position
    rotation := msg.rotation
    stateFlags := obj.stateFlags ||| ObjectStateFlags.moved }

theorem acHandleObjectMove_cases {s after : SessionState F} {msg : MsgObjectMoveRequest F}
    (moved : acHandleObjectMove s msg = some after) :
    ∃ obj, findObject s msg.objectNetId = some obj ∧
      after = updateObject s msg.objectNetId (.move msg) := by
  simp only [acHandleObjectMove] at moved
  split at moved
  · cases moved
  · split at moved
    · cases moved
    · rename_i held
      obtain ⟨obj, held⟩ := Option.ne_none_iff_exists'.mp (by simpa using held)
      exact ⟨obj, held, (Option.some.inj moved).symm⟩

theorem acHandleObjectScrap_cases {s after : SessionState F} {msg : MsgObjectScrapRequest}
    (scrapped : acHandleObjectScrap s msg = some after) :
    ∃ obj change, findObject s msg.objectNetId = some obj ∧
      after = wsRemoveObject (updateSettlement s obj.settlementId change) msg.objectNetId := by
  simp only [acHandleObjectScrap] at scrapped
  split at scrapped
  · cases scrapped
  · split at scrapped
    · cases scrapped
    · rename_i obj held
      exact ⟨obj, _, held, (Option.some.inj scrapped).symm⟩

omit [CFloat F] in
theorem dspApplySelection_frame {s after : SessionState F} {playerId : PlayerId}
    {select : MsgDialogueSelect} (applied : dspApplySelection s playerId select = some after) :
    ∃ dialogue, after = { s with dialogue } := by
  simp only [dspApplySelection] at applied
  split at applied
  · exact ⟨_, (Option.some.inj applied).symm⟩
  · cases applied

end Authority

/-! ## Posting from a state -/

section Posting
variable [WireFloat F]

def ServiceState.post (s : ServiceState F) (posts : List (Post F)) : ServiceState F :=
  { s with ctx := sendAll s.session.sessionId posts s.ctx }

@[simp] theorem post_nil (s : ServiceState F) : s.post [] = s := rfl

@[simp] theorem post_session (s : ServiceState F) (posts : List (Post F)) :
    (s.post posts).session = s.session := rfl

theorem post_post (s : ServiceState F) (posts more : List (Post F)) :
    (s.post posts).post more = s.post (posts ++ more) := by
  simp only [ServiceState.post, sendAll_append]

theorem post_frame (s : ServiceState F) (posts : List (Post F)) : ∃ transport outputs,
    s.post posts = { s with ctx := { s.ctx with transport, outputs } } := by
  obtain ⟨transport, outputs, sent⟩ := sendAll_frame s.session.sessionId posts s.ctx
  exact ⟨transport, outputs, congrArg (fun ctx => { s with ctx }) sent⟩

theorem post_head? [LawfulWireFloat F] {s : ServiceState F} (empty : s.ctx.outputs = [])
    {p : Post F} {posts : List (Post F)} (sendable : ∀ q ∈ p :: posts, Sendable q.type q.body) :
    (s.post (p :: posts)).ctx.outputs.head? =
      some (p.output s.session.sessionId (s.ctx.transport.lastTxSequence + 1)) := by
  rw [ServiceState.post, sendAll_sendable s.session.sessionId sendable, empty]
  rfl

theorem send_tlBroadcast (s : ServiceState F) (type : MessageType) (flags : UInt16)
    (body : SessionState F → Body F type) :
    (s.send fun session => tlBroadcast session type flags (encodeBody type (body session))) =
      s.post (toConnected s.session type flags (body s.session)) := by
  simp only [ServiceState.send, ServiceState.post, tlBroadcast_posts]

theorem send_tlBroadcastPlayerState (s : ServiceState F) (player : PlayerRuntimeState F) :
    (s.send fun session => tlBroadcastPlayerState session player) =
      s.post (toConnected s.session .playerState ch1World player.replicatedState) := by
  simp only [tlBroadcastPlayerState]
  exact send_tlBroadcast s .playerState ch1World fun _ => player.replicatedState

theorem send_tlBroadcastPlayerLeft (s : ServiceState F) (playerId : PlayerId) :
    (s.send fun session => tlBroadcastPlayerLeft session playerId) =
      s.post (toConnected s.session .playerLeft (reliable ||| ordered ||| ch1World)
        { playerId }) := by
  simp only [tlBroadcastPlayerLeft]
  exact send_tlBroadcast s .playerLeft (reliable ||| ordered ||| ch1World) fun _ => { playerId }

theorem send_tlBroadcastActorState (s : ServiceState F) (actor : ActorRuntimeState F) :
    (s.send fun session => tlBroadcastActorState session actor) =
      s.post (toConnected s.session .actorState ch1World actor.replicatedState) := by
  simp only [tlBroadcastActorState]
  exact send_tlBroadcast s .actorState ch1World fun _ => actor.replicatedState

theorem send_tlBroadcastActorDespawn (s : ServiceState F) (actorNetId : ActorNetId)
    (reason : UInt8) : (s.send fun session => tlBroadcastActorDespawn session actorNetId reason) =
      s.post (toConnected s.session .actorDespawn (reliable ||| ordered ||| ch1World)
        { actorNetId, reason }) := by
  simp only [tlBroadcastActorDespawn]
  exact send_tlBroadcast s .actorDespawn (reliable ||| ordered ||| ch1World)
    fun _ => { actorNetId, reason }

theorem send_tlBroadcastDamage (s : ServiceState F) (msg : MsgDamageResult F) :
    (s.send fun session => tlBroadcastDamage session msg) =
      s.post (toConnected s.session .damageResult (reliable ||| ordered ||| ch2Combat) msg) := by
  simp only [tlBroadcastDamage]
  exact send_tlBroadcast s .damageResult (reliable ||| ordered ||| ch2Combat) fun _ => msg

theorem send_tlBroadcastDeath (s : ServiceState F) (msg : MsgDeathEvent) :
    (s.send fun session => tlBroadcastDeath session msg) =
      s.post (toConnected s.session .deathEvent (reliable ||| ordered ||| ch2Combat) msg) := by
  simp only [tlBroadcastDeath]
  exact send_tlBroadcast s .deathEvent (reliable ||| ordered ||| ch2Combat) fun _ => msg

theorem send_tlBroadcastObjectSpawn (s : ServiceState F) (obj : ObjectRuntimeState F) :
    (s.send fun session => tlBroadcastObjectSpawn session obj) =
      s.post (toConnected s.session .objectSpawn (reliable ||| ordered ||| ch3Work)
        (objectSpawnMsg obj)) := by
  simp only [tlBroadcastObjectSpawn]
  exact send_tlBroadcast s .objectSpawn (reliable ||| ordered ||| ch3Work)
    fun _ => objectSpawnMsg obj

theorem send_tlBroadcastObjectUpdate (s : ServiceState F) (obj : ObjectRuntimeState F)
    (fieldsMask : UInt32) :
    (s.send fun session => tlBroadcastObjectUpdate session obj fieldsMask) =
      s.post (toConnected s.session .objectUpdate (reliable ||| ordered ||| ch3Work)
        (objectUpdateMsg obj fieldsMask)) := by
  simp only [tlBroadcastObjectUpdate]
  exact send_tlBroadcast s .objectUpdate (reliable ||| ordered ||| ch3Work)
    fun _ => objectUpdateMsg obj fieldsMask

theorem send_tlBroadcastObjectDespawn (s : ServiceState F) (objectNetId : ObjectNetId)
    (reason : UInt8) :
    (s.send fun session => tlBroadcastObjectDespawn session objectNetId reason) =
      s.post (toConnected s.session .objectDespawn (reliable ||| ordered ||| ch3Work)
        { objectNetId, reason }) := by
  simp only [tlBroadcastObjectDespawn]
  exact send_tlBroadcast s .objectDespawn (reliable ||| ordered ||| ch3Work)
    fun _ => { objectNetId, reason }

end Posting

/-! ## HELLO -/

section Hello
variable [CFloat F] [WireFloat F]

/-- The GUID and the name of an envelope that carries a decodable HELLO. -/
def helloOf? (bytes : List UInt8) : Option (Text × Text) :=
  match openPacket bytes with
  | none => none
  | some (_, mh, r) =>
      if MessageType.ofCode? mh.type = some .hello then
        match ((decodeMsgHello (f4mpMaxPlayerGuidBytes + 1) (f4mpMaxPlayerNameBytes + 1)).run r).1 with
        | some (_, playerGuid, playerName) => some (cString playerGuid, cString playerName)
        | none => none
      else none

omit [CFloat F] [WireFloat F] in
theorem findPlayer_smReconnectPlayer {s after : SessionState F} {id : PlayerId}
    {connectionId : UInt32} (seated : smReconnectPlayer s id connectionId = some after) :
    ∃ slot, findPlayer after id = some slot := by
  simp only [smReconnectPlayer] at seated
  split at seated
  · rename_i present
    rw [← Option.some.inj seated, ← Option.isSome_iff_exists]
    exact Slots.find?_modifyFirst_isSome (fun p same => by simpa using same) present
  · cases seated

omit [WireFloat F] in
theorem findPlayer_smJoinSession {s after : SessionState F} {id : PlayerId}
    {connectionId : UInt32} (seated : smJoinSession s id connectionId = some after) :
    ∃ slot, findPlayer after id = some slot := by
  simp only [smJoinSession, wsAllocPlayer] at seated
  split at seated
  · rename_i room
    rw [← Option.some.inj seated, ← Option.isSome_iff_exists]
    exact Slots.find?_modifyFirst_isSome (fun _ _ => by simp) room
  · cases seated

omit [WireFloat F] in
theorem findPlayer_takeSeat {s taken : ServiceState F} {playerGuid : Text} {connectionId : UInt32}
    {id : PlayerId} (takes : takeSeat s playerGuid connectionId = some (id, taken)) :
    ∃ slot, findPlayer taken.session id = some slot := by
  simp only [takeSeat] at takes
  split at takes
  · split at takes
    · cases takes
    · split at takes
      · cases takes
      · rename_i joined
        simp only [Option.some.injEq, Prod.mk.injEq] at takes
        obtain ⟨rfl, rfl⟩ := takes
        exact findPlayer_smJoinSession joined
  · split at takes
    · cases takes
    · rename_i reconnected
      simp only [Option.some.injEq, Prod.mk.injEq] at takes
      obtain ⟨rfl, rfl⟩ := takes
      exact findPlayer_smReconnectPlayer reconnected

omit [WireFloat F] in
theorem takeSeat_frame {s taken : ServiceState F} {playerGuid : Text} {connectionId : UInt32}
    {id : PlayerId} (takes : takeSeat s playerGuid connectionId = some (id, taken)) :
    ∃ players connectedCount registry,
      taken = { s with session := { s.session with players, connectedCount }, registry } := by
  simp only [takeSeat, smJoinSession, wsAllocPlayer, smReconnectPlayer] at takes
  split at takes
  · split at takes
    · cases takes
    · split at takes
      · cases takes
      · rename_i joined
        split at joined
        · rw [← Option.some.inj joined] at takes
          simp only [Option.some.injEq, Prod.mk.injEq] at takes
          exact ⟨_, _, _, takes.2.symm⟩
        · cases joined
  · split at takes
    · cases takes
    · rename_i reconnected
      split at reconnected
      · rw [← Option.some.inj reconnected] at takes
        simp only [Option.some.injEq, Prod.mk.injEq] at takes
        exact ⟨_, _, _, takes.2.symm⟩
      · cases reconnected

/-- The state behind the writes of `MSG_HELLO` into the slot. -/
def fillSeat (store : ProfileStore) (playerGuid playerName : Text) (connectionId : UInt32)
    (id : PlayerId) (taken : ServiceState F) : ServiceState F :=
  { taken with
    session := updatePlayer taken.session id
      (fillSlot store playerGuid playerName connectionId taken.ctx.currentTick) }

/-- The profile that a HELLO is answered with. -/
def seatProfile (store : ProfileStore) (playerGuid playerName : Text) (connectionId tick : UInt32)
    (slot : PlayerRuntimeState F) : PlayerProfile :=
  (fillSlot store playerGuid playerName connectionId tick slot).profileSnapshot.toPlayerProfile

theorem tlAcceptHello_seated {store : ProfileStore} {connectionId : UInt32}
    {playerGuid playerName : Text} {s taken : ServiceState F} {id : PlayerId}
    {slot : PlayerRuntimeState F}
    (takes : takeSeat s playerGuid connectionId = some (id, taken))
    (found : findPlayer taken.session id = some slot) :
    let seated := fillSeat store playerGuid playerName connectionId id taken
    let profile := seatProfile store playerGuid playerName connectionId taken.ctx.currentTick slot
    let sent := sendUntilFailure seated.session.sessionId
      (answerPosts seated.session connectionId id profile) seated.ctx
    tlAcceptHello store connectionId playerGuid playerName s = (sent.1, { seated with
      ctx := if sent.1 then
          sendAll seated.session.sessionId (replayPosts seated.session connectionId id) sent.2
        else sent.2 }) := by
  intro seated profile sent
  have answered : sendThen (tlSendWelcome seated.session connectionId id seated.ctx)
      (tlSendProfileSnapshot seated.session connectionId profile) = sent :=
    answer_sends seated.session connectionId id profile seated.ctx
  have handled : tlAcceptHello store connectionId playerGuid playerName s =
      if sent.1 then (true, { seated with
        ctx := tlSendExistingStateToPlayer seated.session connectionId id sent.2 })
      else (false, { seated with ctx := sent.2 }) := by
    rw [← answered]
    simp only [tlAcceptHello, takes, found]
    rfl
  rw [handled, tlSendExistingStateToPlayer_posts]
  cases sent.1 <;> rfl

/-- The messages that a HELLO is answered with. -/
def helloPosts (store : ProfileStore) (playerGuid playerName : Text) (connectionId : UInt32)
    (id : PlayerId) (slot : PlayerRuntimeState F) (taken : ServiceState F) : List (Post F) :=
  let seated := fillSeat store playerGuid playerName connectionId id taken
  answerPosts seated.session connectionId id
      (seatProfile store playerGuid playerName connectionId taken.ctx.currentTick slot) ++
    replayPosts seated.session connectionId id

omit [WireFloat F] in
theorem helloPosts_sendable (store : ProfileStore) (playerGuid playerName : Text)
    (connectionId : UInt32) (id : PlayerId) (slot : PlayerRuntimeState F) (taken : ServiceState F) :
    ∀ p ∈ helloPosts store playerGuid playerName connectionId id slot taken,
      Sendable p.type p.body :=
  List.forall_mem_append.mpr
    ⟨answerPosts_sendable _ _ _ _, replayPosts_sendable _ _ _⟩

/-- A HELLO that found a seat posts its answer, and stops short only when the queue is full. -/
theorem tlAcceptHello_posts [LawfulWireFloat F] {store : ProfileStore} {connectionId : UInt32}
    {playerGuid playerName : Text} {s taken : ServiceState F} {id : PlayerId}
    {slot : PlayerRuntimeState F}
    (takes : takeSeat s playerGuid connectionId = some (id, taken))
    (found : findPlayer taken.session id = some slot) :
    let whole := helloPosts store playerGuid playerName connectionId id slot taken
    ∃ posts ok, posts <+: whole ∧ (ok = true → posts = whole) ∧
      (ok = false → maxOutputs < s.ctx.outputs.length + 5) ∧
      tlAcceptHello store connectionId playerGuid playerName s =
        (ok, (fillSeat store playerGuid playerName connectionId id taken).post posts) := by
  intro whole
  obtain ⟨seated, seatedIs⟩ : ∃ t, t =
      fillSeat store playerGuid playerName connectionId id taken := ⟨_, rfl⟩
  obtain ⟨answer, answerIs⟩ : ∃ posts, posts = answerPosts seated.session connectionId id
      (seatProfile store playerGuid playerName connectionId taken.ctx.currentTick slot) := ⟨_, rfl⟩
  have parts : whole = answer ++ replayPosts seated.session connectionId id := by
    rw [answerIs, seatedIs]
    rfl
  have sendable : ∀ p ∈ answer, Sendable p.type p.body := by
    rw [answerIs]
    exact answerPosts_sendable _ _ _ _
  have size : answer.length = 5 := by
    rw [answerIs]
    rfl
  obtain ⟨sent, sentIs⟩ : ∃ sent, sent =
      sendUntilFailure seated.session.sessionId answer seated.ctx := ⟨_, rfl⟩
  have handled : tlAcceptHello store connectionId playerGuid playerName s = (sent.1, { seated with
      ctx := if sent.1 then
          sendAll seated.session.sessionId (replayPosts seated.session connectionId id) sent.2
        else sent.2 }) := by
    rw [sentIs, answerIs, seatedIs]
    exact tlAcceptHello_seated takes found
  have queue : seated.ctx = s.ctx := by
    obtain ⟨players, connectedCount, registry, frame⟩ := takeSeat_frame takes
    rw [seatedIs, frame]
    rfl
  obtain ⟨front, isFront, frontSent, complete⟩ :=
    sendUntilFailure_sent seated.session.sessionId answer seated.ctx
  rw [← sentIs] at frontSent complete
  rw [handled, ← seatedIs, parts]
  cases ok : sent.1 with
  | true =>
      refine ⟨_, true, List.prefix_rfl, fun _ => rfl, nofun, ?_⟩
      simp only [if_true, frontSent, complete ok, ServiceState.post, sendAll_append]
  | false =>
      refine ⟨front, false, isFront.trans (List.prefix_append _ _), nofun, fun _ => ?_, ?_⟩
      · by_contra room
        have all : sent.1 = true := by
          rw [sentIs]
          exact sendUntilFailure_ok _ sendable (by rw [queue, size]; omega)
        rw [ok] at all
        cases all
      · simp only [Bool.false_eq_true, if_false, frontSent, ServiceState.post]

end Hello

/-! ## Outcomes -/

section Outcomes
variable [CFloat F] [WireFloat F]

/-- The messages about a hit, in a session that already shows it. -/
def hitPosts (s : SessionState F) (attacker : PlayerId) (target : ActorRuntimeState F) :
    List (Post F) :=
  let reliableOn := reliable ||| ordered ||| ch2Combat
  if target.actorNetId = 0 then []
  else
    toConnected s .damageResult reliableOn (hitDamage attacker target) ++
      ((findActor s target.actorNetId).toList.flatMap fun actor =>
        toConnected s .actorState ch1World actor.replicatedState) ++
      if le target.hit.replicatedState.healthNorm (lit 0 1) then
        toConnected s .deathEvent reliableOn (hitDeath attacker target)
      else []

omit [WireFloat F] in
theorem mem_hitPosts {s : SessionState F} {attacker : PlayerId} {target : ActorRuntimeState F}
    {p : Post F} (member : p ∈ hitPosts s attacker target) :
    ∃ player ∈ s.players.slots, player.connected = true ∧
      (p = ⟨player.connectionId, .damageResult, reliable ||| ordered ||| ch2Combat,
          hitDamage attacker target⟩ ∨
        (∃ actor, findActor s target.actorNetId = some actor ∧
          p = ⟨player.connectionId, .actorState, ch1World, actor.replicatedState⟩) ∨
        (le target.hit.replicatedState.healthNorm (lit 0 1) = true ∧
          p = ⟨player.connectionId, .deathEvent, reliable ||| ordered ||| ch2Combat,
            hitDeath attacker target⟩)) := by
  simp only [hitPosts] at member
  split at member
  · cases member
  · simp only [List.mem_append, List.mem_flatMap, Option.mem_toList] at member
    rcases member with (damage | ⟨actor, found, state⟩) | death
    · obtain ⟨player, listed, connected, rfl⟩ := mem_toConnected damage
      exact ⟨player, listed, connected, .inl rfl⟩
    · obtain ⟨player, listed, connected, rfl⟩ := mem_toConnected state
      exact ⟨player, listed, connected, .inr (.inl ⟨actor, found, rfl⟩)⟩
    · split at death
      · rename_i killed
        obtain ⟨player, listed, connected, rfl⟩ := mem_toConnected death
        exact ⟨player, listed, connected, .inr (.inr ⟨killed, rfl⟩)⟩
      · cases death

def buildResultPost (connectionId : UInt32) (result : MsgBuildResult) : Post F where
  connectionId := connectionId
  type := .buildResult
  flags := reliable ||| ordered ||| ch3Work
  body := result

def objectSpawnPosts (s : SessionState F) (objectNetId : ObjectNetId) : List (Post F) :=
  (findObject s objectNetId).toList.flatMap fun obj =>
    toConnected s .objectSpawn (reliable ||| ordered ||| ch3Work) (objectSpawnMsg obj)

omit [CFloat F] [WireFloat F] in
theorem mem_objectSpawnPosts {s : SessionState F} {objectNetId : ObjectNetId} {p : Post F}
    (member : p ∈ objectSpawnPosts s objectNetId) :
    ∃ obj, findObject s objectNetId = some obj ∧ ∃ player ∈ s.players.slots,
      player.connected = true ∧
      p = ⟨player.connectionId, .objectSpawn, reliable ||| ordered ||| ch3Work,
        objectSpawnMsg obj⟩ := by
  obtain ⟨obj, found, listed⟩ := List.mem_flatMap.mp member
  obtain ⟨player, slot, connected, rfl⟩ := mem_toConnected listed
  exact ⟨obj, Option.mem_toList.mp found, player, slot, connected, rfl⟩

def moveMask : UInt32 :=
  ObjectUpdateFields.position ||| ObjectUpdateFields.rotation ||| ObjectUpdateFields.stateFlags

/-- An envelope with one message, as a client sends it. -/
def envelopeOf (connectionId : UInt32) (type : MessageType) (body : Body F type) :
    TransportEnvelope :=
  ⟨connectionId, packetBytes 1 1 type 0 body⟩

/-- What a message writes into the slot of the player who sent it, and what it posts. -/
inductive OwnWrite (env : TransportEnvelope) (s : ServiceState F) (player : PlayerRuntimeState F) :
    (PlayerRuntimeState F → PlayerRuntimeState F) → List (Post F) → Prop where
  | heard : OwnWrite env s player (hear s.ctx.currentTick) []
  | ponged (timeMs : UInt32) : OwnWrite env s player (hear s.ctx.currentTick)
      [⟨env.connectionId, .pong, ch0Control, ⟨timeMs⟩⟩]
  | stale {msg : Body F .playerState} {current : PlayerRuntimeState F}
      (carries : Carries env.bytes .playerState msg)
      (found : findPlayer s.session player.playerId = some current)
      (own : msg.playerId = player.playerId)
      (rejected : (psrEvaluate current.relayStats msg).1 = .reject) :
      OwnWrite env s player (fun p => { hear s.ctx.currentTick p with
        relayStats := (psrEvaluate current.relayStats msg).2 }) []
  | relayed {msg : Body F .playerState} {current : PlayerRuntimeState F}
      (carries : Carries env.bytes .playerState msg)
      (found : findPlayer s.session player.playerId = some current)
      (own : msg.playerId = player.playerId)
      (accepted : (psrEvaluate current.relayStats msg).1 = .accept) :
      OwnWrite env s player (fun p => { hear s.ctx.currentTick p with
          relayStats := (psrEvaluate current.relayStats msg).2
          replicatedState := msg })
        (toConnected s.session .playerState ch1World msg)
  | edited {msg : Body F .inputState} {current : PlayerRuntimeState F}
      (carries : Carries env.bytes .inputState msg)
      (found : findPlayer s.session player.playerId = some current) :
      OwnWrite env s player (fun p => hear s.ctx.currentTick (p.input msg))
        (toConnected s.session .playerState ch1World (current.input msg).replicatedState)

/-- How an envelope can end: the messages it posts, the flag it returns and the state it leaves. -/
inductive Outcome (store : ProfileStore) (env : TransportEnvelope) (s : ServiceState F) :
    List (Post F) → Bool × ServiceState F → Prop where
  | ignored : Outcome store env s [] (false, s)
  | seated {playerGuid playerName : Text} {id : PlayerId} {taken : ServiceState F}
      {slot : PlayerRuntimeState F} {posts : List (Post F)} {ok : Bool}
      (hello : helloOf? env.bytes = some (playerGuid, playerName))
      (takes : takeSeat s playerGuid env.connectionId = some (id, taken))
      (found : findPlayer taken.session id = some slot)
      (isPrefix : posts <+: helloPosts store playerGuid playerName env.connectionId id slot taken)
      (complete : ok = true →
        posts = helloPosts store playerGuid playerName env.connectionId id slot taken)
      (stopped : ok = false → maxOutputs < s.ctx.outputs.length + 5) :
      Outcome store env s posts
        (ok, (fillSeat store playerGuid playerName env.connectionId id taken).post posts)
  | kept {player : PlayerRuntimeState F} {f : PlayerRuntimeState F → PlayerRuntimeState F}
      {posts : List (Post F)} {ok : Bool}
      (byConnection : tlFindPlayerByConnection s.session env.connectionId = some player)
      (keeps : ∀ p, (f p).seat = p.seat)
      (personal : ∀ p ∈ posts, p.type = .pong ∨ p.type = .playerState)
      (failed : ok = false →
        f = hear s.ctx.currentTick ∧ (posts = [] ∨ maxOutputs ≤ s.ctx.outputs.length))
      (wrote : OwnWrite env s player f posts) :
      Outcome store env s posts (ok,
        { s with session := updatePlayer s.session player.playerId f }.post posts)
  | left {player : PlayerRuntimeState F} {posts : List (Post F)}
      (byConnection : tlFindPlayerByConnection s.session env.connectionId = some player)
      (posted : posts = toConnected (heard s player.playerId).session .playerLeft
        (reliable ||| ordered ||| ch1World) ⟨player.playerId, 0⟩)
      (carries : ∃ msg, Carries (F := F) env.bytes .disconnect msg) :
      Outcome store env s posts (true,
        { (heard s player.playerId).post posts with
          session := smRemovePlayer (heard s player.playerId).session player.playerId })
  | hit {player : PlayerRuntimeState F} {i : Nat} {target : ActorRuntimeState F}
      {after : SessionState F} {posts : List (Post F)}
      (byConnection : tlFindPlayerByConnection s.session env.connectionId = some player)
      (target_at : s.session.actors.slots[i]? = some target) (inUse : target.inUse = true)
      (alive : target.dead = false) (hostile : target.hostile = true)
      (shot : after = { (heard s player.playerId).session with
        actors := s.session.actors.modify i .hit })
      (posted : posts = hitPosts after player.playerId target) :
      Outcome store env s posts
        (true, { heard s player.playerId with session := after }.post posts)
  | refused {player : PlayerRuntimeState F} {result : MsgBuildResult} {nextObjectId : ObjectNetId}
      {posts : List (Post F)}
      (byConnection : tlFindPlayerByConnection s.session env.connectionId = some player)
      (denied : result.accepted = 0)
      (counted : nextObjectId = s.nextObjectId ∨ nextObjectId = s.nextObjectId + 1)
      (posted : posts = [buildResultPost env.connectionId result]) :
      Outcome store env s posts
        (true, { heard s player.playerId with nextObjectId }.post posts)
  | built (change : SettlementState F → SettlementState F) {player : PlayerRuntimeState F}
      {msg : MsgBuildRequest F} {objects : Slots.Table maxObjectsPerSession (ObjectRuntimeState F)}
      {after : SessionState F} {posts : List (Post F)}
      (byConnection : tlFindPlayerByConnection s.session env.connectionId = some player)
      (claimed : s.session.objects.claim Slots.free (builtObject s.nextObjectId msg) = some objects)
      (placed : after = updateSettlement { (heard s player.playerId).session with objects }
        msg.settlementId change)
      (posted : posts = buildResultPost env.connectionId
          ⟨msg.requestId, 1, BuildResultReason.ok, 0, s.nextObjectId⟩ ::
        objectSpawnPosts after s.nextObjectId)
      (own : msg.playerId = player.playerId) :
      Outcome store env s posts (true, { heard s player.playerId with
        session := after, nextObjectId := s.nextObjectId + 1 }.post posts)
  | moved {player : PlayerRuntimeState F} {msg : MsgObjectMoveRequest F}
      {obj : ObjectRuntimeState F} {after : SessionState F} {posts : List (Post F)}
      (held : findObject s.session msg.objectNetId = some obj)
      (changed : after = updateObject s.session msg.objectNetId (.move msg))
      (posted : posts = toConnected after .objectUpdate (reliable ||| ordered ||| ch3Work)
        (objectUpdateMsg (obj.move msg) moveMask))
      (byConnection : tlFindPlayerByConnection s.session env.connectionId = some player)
      (carries : Carries (F := F) env.bytes .objectMoveReq msg) :
      Outcome store env s posts (true, { s with session := after }.post posts)
  | scrapped {player : PlayerRuntimeState F} {msg : MsgObjectScrapRequest}
      {obj : ObjectRuntimeState F} {change : SettlementState F → SettlementState F}
      {after : SessionState F} {posts : List (Post F)}
      (held : findObject s.session msg.objectNetId = some obj)
      (removed : after = wsRemoveObject
        (updateSettlement s.session obj.settlementId change) msg.objectNetId)
      (posted : posts = toConnected after .objectDespawn (reliable ||| ordered ||| ch3Work)
        { objectNetId := msg.objectNetId, reason := odespawnScrapped })
      (byConnection : tlFindPlayerByConnection s.session env.connectionId = some player)
      (carries : Carries (F := F) env.bytes .objectScrapReq msg) :
      Outcome store env s posts (true, { s with session := after }.post posts)
  | selected {player : PlayerRuntimeState F} {playerId : PlayerId} {msg : MsgDialogueSelect}
      {after : SessionState F} (applied : dspApplySelection s.session playerId msg = some after)
      (byConnection : tlFindPlayerByConnection s.session env.connectionId = some player)
      (own : playerId = player.playerId)
      (carries : Carries (F := F) env.bytes .dialogueSelect msg) :
      Outcome store env s [] (true, { s with
        session := after
        ctx := { s.ctx with
          hasPendingDialogueSelect := true
          pendingDialoguePlayerId := playerId
          pendingDialogueSelect := msg } })

/-! ## The handlers -/

section Handlers
variable {store : ProfileStore} {env : TransportEnvelope} {s : ServiceState F}
  {player : PlayerRuntimeState F} {r : PacketReader}

/-- What an evaluated PLAYER_STATE writes into the slot, besides the state. -/
def PlayerRuntimeState.evaluate (tick : UInt32) (stats : PlayerStateRelayStats)
    (p : PlayerRuntimeState F) : PlayerRuntimeState F :=
  { hear tick p with relayStats := stats }

omit [CFloat F] in
theorem send_relayed {f : PlayerRuntimeState F → PlayerRuntimeState F} {after : SessionState F}
    {playerId : PlayerId} (relayed : PlayerRuntimeState F)
    (changed : after = updatePlayer s.session playerId f) (keeps : ∀ p, (f p).seat = p.seat) :
    ({ s with session := after }.send fun session => tlBroadcastPlayerState session relayed) =
      { s with session := updatePlayer s.session playerId f }.post
        (toConnected s.session .playerState ch1World relayed.replicatedState) := by
  rw [send_tlBroadcastPlayerState, toConnected_connections, toConnected_connections, changed,
    connections_of_seats (seats_updatePlayer s.session playerId keeps)]

omit [CFloat F] in
theorem tlHandlePlayerState_decoded {playerId : PlayerId} {msg : MsgPlayerState F}
    {r' : PacketReader} {current : PlayerRuntimeState F}
    (decoded : (decodeMsgPlayerState : Read (MsgPlayerState F)).run r = (some msg, r'))
    (own : msg.playerId = playerId) (found : findPlayer s.session playerId = some current) :
    tlHandlePlayerState playerId r s =
      match psrEvaluate current.relayStats msg with
      | (.reject, stats) => (true, { s with
          session := updatePlayer s.session playerId (.evaluate s.ctx.currentTick stats) })
      | (.accept, stats) => (true, { s with
          session := updatePlayer s.session playerId fun p =>
            { p.evaluate s.ctx.currentTick stats with replicatedState := msg } }.post
          (toConnected s.session .playerState ch1World msg)) := by
  obtain ⟨stats, statsAre⟩ : ∃ stats, stats = (psrEvaluate current.relayStats msg).2 := ⟨_, rfl⟩
  have evaluated : updatePlayer (heard s playerId).session playerId
      (fun p => { p with relayStats := stats }) =
      updatePlayer s.session playerId (.evaluate s.ctx.currentTick stats) :=
    updatePlayer_comp s.session playerId fun _ => rfl
  have notOther : ¬ msg.playerId ≠ playerId := not_not.mpr own
  cases decision : psrEvaluate current.relayStats msg with
  | mk verdict _ =>
      rw [decision] at statsAre
      subst statsAre
      simp only [tlHandlePlayerState, decoded, if_neg notOther, found, decision, evaluated]
      cases verdict with
      | reject => rfl
      | accept =>
          have written := updatePlayer_comp s.session playerId
            (f := .evaluate s.ctx.currentTick stats)
            (g := fun p => { p with replicatedState := msg }) fun _ => rfl
          have relayed := send_relayed { current with replicatedState := msg } written
            fun _ => rfl
          exact congrArg (true, ·) relayed

omit [CFloat F] in
theorem tlHandleInputState_decoded {playerId : PlayerId} {msg : MsgInputState} {r' : PacketReader}
    {current : PlayerRuntimeState F} (decoded : decodeMsgInputState.run r = (some msg, r'))
    (found : findPlayer s.session playerId = some current) :
    tlHandleInputState playerId r s = (true, { s with
      session := updatePlayer s.session playerId fun p =>
        hear s.ctx.currentTick (p.input msg) }.post
      (toConnected s.session .playerState ch1World (current.input msg).replicatedState)) := by
  have keeps : ∀ p : PlayerRuntimeState F, (p.input msg).seat = p.seat := fun _ => rfl
  have applied : acHandleInputState s.session msg playerId =
      some (updatePlayer s.session playerId (.input msg)) := by
    rw [acHandleInputState, found]
    rfl
  have foundAfter : findPlayer (updatePlayer s.session playerId (.input msg)) playerId =
      some (current.input msg) := by
    rw [findPlayer_updatePlayer s.session playerId keeps, found]
    rfl
  simp only [tlHandleInputState, decoded, applied, foundAfter]
  have written := updatePlayer_comp s.session playerId (f := .input msg)
    (g := hear s.ctx.currentTick) keeps
  have relayed := send_relayed (current.input msg) written fun _ => rfl
  exact congrArg (true, ·) relayed

omit [CFloat F] [WireFloat F] in
theorem toConnected_personal {posts : List (Post F)} {body : Body F .playerState}
    (posted : posts = toConnected s.session .playerState ch1World body) :
    ∀ p ∈ posts, p.type = .pong ∨ p.type = .playerState := by
  intro p member
  obtain ⟨_, _, _, rfl⟩ := mem_toConnected (posted ▸ member)
  exact .inr rfl

theorem tlHandlePing_outcome [LawfulWireFloat F]
    (byConnection : tlFindPlayerByConnection s.session env.connectionId = some player) :
    ∃ posts, Outcome store env s posts (tlHandlePing env.connectionId player.playerId r s) := by
  simp only [tlHandlePing]
  split
  · exact ⟨_, .ignored⟩
  · rename_i msg _ _
    let pong : Post F := ⟨env.connectionId, .pong, ch0Control, ⟨msg.timeMs⟩⟩
    have full : (tlSendPong (heard s player.playerId).session env.connectionId msg.timeMs
        (heard s player.playerId).ctx).1 = false → maxOutputs ≤ s.ctx.outputs.length :=
      tlSendSingle_full (sendable_of_plainMessage rfl pong.body)
    exact ⟨[pong], .kept byConnection (fun _ => rfl) (by simp [pong])
      (fun failed => ⟨rfl, .inr (full failed)⟩) (.ponged msg.timeMs)⟩

theorem tlHandleDisconnect_outcome (opens : OpensAt env.bytes .disconnect r)
    (byConnection : tlFindPlayerByConnection s.session env.connectionId = some player) :
    ∃ posts, Outcome store env s posts (tlHandleDisconnect player.playerId r s) := by
  simp only [tlHandleDisconnect]
  split
  · exact ⟨_, .ignored⟩
  · rename_i decoded
    rw [send_tlBroadcastPlayerLeft]
    exact ⟨_, .left byConnection rfl ⟨_, opens.carries decoded⟩⟩

theorem tlHandlePlayerState_outcome (opens : OpensAt env.bytes .playerState r)
    (byConnection : tlFindPlayerByConnection s.session env.connectionId = some player) :
    ∃ posts, Outcome store env s posts (tlHandlePlayerState player.playerId r s) := by
  rcases decoded : (decodeMsgPlayerState : Read (MsgPlayerState F)).run r with ⟨_ | msg, r'⟩
  · exact ⟨_, by simp only [tlHandlePlayerState, decoded]; exact .ignored⟩
  · by_cases own : msg.playerId = player.playerId
    · cases found : findPlayer s.session player.playerId with
      | none =>
          have notOther : ¬ msg.playerId ≠ player.playerId := not_not.mpr own
          refine ⟨[], ?_⟩
          simp only [tlHandlePlayerState, decoded, if_neg notOther, found]
          exact .ignored
      | some current =>
          have carries : Carries env.bytes .playerState msg := opens.carries decoded
          rw [tlHandlePlayerState_decoded decoded own found]
          cases decision : psrEvaluate current.relayStats msg with
          | mk verdict stats =>
              cases verdict with
              | reject =>
                  refine ⟨[], .kept byConnection (fun _ => rfl) nofun nofun ?_⟩
                  have wrote := OwnWrite.stale (s := s) carries found own (by rw [decision])
                  rw [decision] at wrote
                  exact wrote
              | accept =>
                  refine ⟨_, .kept byConnection (fun _ => rfl) (toConnected_personal rfl) nofun ?_⟩
                  have wrote := OwnWrite.relayed (s := s) carries found own (by rw [decision])
                  rw [decision] at wrote
                  exact wrote
    · exact ⟨_, by simp only [tlHandlePlayerState, decoded, ne_eq, own, not_false_eq_true, if_true]
                   exact .ignored⟩

theorem tlHandleInputState_outcome (opens : OpensAt env.bytes .inputState r)
    (byConnection : tlFindPlayerByConnection s.session env.connectionId = some player) :
    ∃ posts, Outcome store env s posts (tlHandleInputState player.playerId r s) := by
  rcases decoded : decodeMsgInputState.run r with ⟨_ | msg, r'⟩
  · exact ⟨_, by simp only [tlHandleInputState, decoded]; exact .ignored⟩
  · cases found : findPlayer s.session player.playerId with
    | none =>
        refine ⟨[], ?_⟩
        simp only [tlHandleInputState, decoded, acHandleInputState, found]
        exact .ignored
    | some current =>
        have carries : Carries (F := F) env.bytes .inputState msg := opens.carries decoded
        rw [tlHandleInputState_decoded decoded found]
        exact ⟨_, .kept byConnection (fun _ => rfl) (toConnected_personal rfl) nofun
          (.edited carries found)⟩

theorem hit_sends (s : ServiceState F) (attacker : PlayerId) (target : ActorRuntimeState F) :
    (if (hitDamage attacker target).victimActorNetId ≠ 0 then
      let s := s.send fun session => tlBroadcastDamage session (hitDamage attacker target)
      let s := match findActor s.session (hitDamage attacker target).victimActorNetId with
        | some actor => s.send fun session => tlBroadcastActorState session actor
        | none => s
      let s := match (if le target.hit.replicatedState.healthNorm (lit 0 1) then
          some (hitDeath attacker target) else none) with
        | some death => s.send fun session => tlBroadcastDeath session death
        | none => s
      (true, s)
    else (true, s)) = (true, s.post (hitPosts s.session attacker target)) := by
  by_cases anonymous : target.actorNetId = 0
  · simp [hitDamage, hitPosts, anonymous]
  · have same : (hitDamage attacker target).victimActorNetId = target.actorNetId := rfl
    simp only [same, hitPosts, if_neg anonymous, send_tlBroadcastDamage, post_session]
    cases findActor s.session target.actorNetId <;>
      cases le target.hit.replicatedState.healthNorm (lit 0 1) <;>
        simp [anonymous, send_tlBroadcastActorState, send_tlBroadcastDeath, post_post]

theorem tlHandleFireIntent_outcome
    (byConnection : tlFindPlayerByConnection s.session env.connectionId = some player) :
    ∃ posts, Outcome store env s posts (tlHandleFireIntent player.playerId r s) := by
  have heardOnly : ∀ ok, Outcome store env s [] (ok, heard s player.playerId) := fun _ =>
    .kept byConnection (fun _ => rfl) nofun (fun _ => ⟨rfl, .inl rfl⟩) .heard
  simp only [tlHandleFireIntent]
  split
  · exact ⟨_, .ignored⟩
  · rename_i msg _ _
    split
    · exact ⟨_, .ignored⟩
    · rename_i own
      rw [not_not] at own
      split
      · exact ⟨_, heardOnly false⟩
      · rename_i outcome fired
        rcases acHandleFireIntent_cases fired with rfl |
          ⟨i, target, at_, inUse, alive, hostile, rfl⟩
        · rw [if_neg (not_not.mpr (FireOutcome.miss_victim _))]
          exact ⟨_, heardOnly true⟩
        · rw [own] at fired ⊢
          have sent := hit_sends { heard s player.playerId with
            session := { (heard s player.playerId).session with
              actors := s.session.actors.modify i .hit } } player.playerId target
          have hit : Outcome store env s _ _ :=
            .hit byConnection at_ inUse alive hostile rfl rfl
          exact ⟨_, (congrArg (Outcome store env s _) sent).mpr hit⟩

omit [CFloat F] in
theorem send_buildResult (s : ServiceState F) (connectionId : UInt32) (result : MsgBuildResult) :
    (s.send fun session ctx => (tlSendSingle session.sessionId connectionId .buildResult
      (reliable ||| ordered ||| ch3Work) (encodeMsgBuildResult result) ctx).2) =
      s.post [buildResultPost connectionId result] := rfl

omit [CFloat F] in
theorem built_sends (s : ServiceState F) (posts : List (Post F)) (objectNetId : ObjectNetId) :
    (match findObject (s.post posts).session objectNetId with
    | some obj => (true, (s.post posts).send fun session => tlBroadcastObjectSpawn session obj)
    | none => (true, s.post posts)) =
      (true, s.post (posts ++ objectSpawnPosts s.session objectNetId)) := by
  simp only [post_session, objectSpawnPosts, send_tlBroadcastObjectSpawn, post_post]
  cases findObject s.session objectNetId <;> simp

theorem tlHandleBuildRequest_outcome
    (byConnection : tlFindPlayerByConnection s.session env.connectionId = some player) :
    ∃ posts, Outcome store env s posts
      (tlHandleBuildRequest env.connectionId player.playerId r s) := by
  simp only [tlHandleBuildRequest]
  split
  · exact ⟨_, .ignored⟩
  · rename_i msg _ _
    split
    · exact ⟨_, .ignored⟩
    · rename_i own
      rw [not_not] at own
      simp only [send_buildResult]
      rcases acHandleBuildRequest_cases (heard s player.playerId).session
          (heard s player.playerId).whitelist (heard s player.playerId).nextObjectId msg with
        ⟨unchanged, denied, counted⟩ | ⟨objects, change, claimed, built⟩
      · rw [unchanged, if_neg (not_not.mpr denied)]
        exact ⟨_, .refused byConnection denied counted rfl⟩
      · have accepted : (1 : UInt8) ≠ 0 := by decide
        simp only [built, if_pos accepted]
        have placed : Outcome store env s _ _ :=
          .built change byConnection claimed rfl rfl own
        exact ⟨_, (congrArg (Outcome store env s _) (built_sends _ _ _)).mpr placed⟩

theorem tlHandleObjectMoveReq_outcome (opens : OpensAt env.bytes .objectMoveReq r)
    (byConnection : tlFindPlayerByConnection s.session env.connectionId = some player) :
    ∃ posts, Outcome store env s posts (tlHandleObjectMoveReq player.playerId r s) := by
  simp only [tlHandleObjectMoveReq]
  split
  · exact ⟨_, .ignored⟩
  · rename_i msg _ decoded
    split
    · exact ⟨_, .ignored⟩
    · split
      · exact ⟨_, .ignored⟩
      · rename_i after applied
        obtain ⟨obj, held, changed⟩ := acHandleObjectMove_cases applied
        have shown : findObject after msg.objectNetId = some (obj.move msg) := by
          rw [changed, ← Option.map_some, ← held]
          exact Slots.find?_modifyFirst_self fun _ same => same
        simp only [shown, send_tlBroadcastObjectUpdate]
        exact ⟨_, .moved held changed rfl byConnection (opens.carries decoded)⟩

theorem tlHandleObjectScrapReq_outcome (opens : OpensAt env.bytes .objectScrapReq r)
    (byConnection : tlFindPlayerByConnection s.session env.connectionId = some player) :
    ∃ posts, Outcome store env s posts (tlHandleObjectScrapReq player.playerId r s) := by
  simp only [tlHandleObjectScrapReq]
  split
  · exact ⟨_, .ignored⟩
  · rename_i decoded
    split
    · exact ⟨_, .ignored⟩
    · split
      · exact ⟨_, .ignored⟩
      · rename_i after applied
        obtain ⟨obj, change, held, removed⟩ := acHandleObjectScrap_cases applied
        rw [send_tlBroadcastObjectDespawn]
        exact ⟨_, .scrapped held removed rfl byConnection (opens.carries decoded)⟩

theorem tlHandleDialogueSelect_outcome (opens : OpensAt env.bytes .dialogueSelect r)
    (byConnection : tlFindPlayerByConnection s.session env.connectionId = some player) :
    ∃ posts, Outcome store env s posts (tlHandleDialogueSelect player.playerId r s) := by
  simp only [tlHandleDialogueSelect]
  split
  · exact ⟨_, .ignored⟩
  · rename_i decoded
    split
    · exact ⟨_, .ignored⟩
    · rename_i after applied
      exact ⟨_, .selected applied byConnection rfl (opens.carries decoded)⟩

end Handlers

/-! ## The envelope -/

theorem tlHandlePlayerMessage_outcome [LawfulWireFloat F] {store : ProfileStore}
    {env : TransportEnvelope} {s : ServiceState F} {player : PlayerRuntimeState F}
    {r : PacketReader} {type : Option MessageType}
    (opens : ∀ known, type = some known → OpensAt env.bytes known r)
    (byConnection : tlFindPlayerByConnection s.session env.connectionId = some player) :
    ∃ posts, Outcome store env s posts
      (tlHandlePlayerMessage type env.connectionId player.playerId r s) := by
  simp only [tlHandlePlayerMessage]
  split
  · exact tlHandlePing_outcome byConnection
  · exact tlHandleDisconnect_outcome (opens _ rfl) byConnection
  · exact tlHandlePlayerState_outcome (opens _ rfl) byConnection
  · exact tlHandleInputState_outcome (opens _ rfl) byConnection
  · exact tlHandleFireIntent_outcome byConnection
  · exact tlHandleBuildRequest_outcome byConnection
  · exact tlHandleObjectMoveReq_outcome (opens _ rfl) byConnection
  · exact tlHandleObjectScrapReq_outcome (opens _ rfl) byConnection
  · exact tlHandleDialogueSelect_outcome (opens _ rfl) byConnection
  · exact ⟨_, .ignored⟩

theorem tlHandleEnvelope_open (store : ProfileStore) (env : TransportEnvelope)
    (s : ServiceState F) : ∃ sequence, tlHandleEnvelope store env s =
      match openPacket env.bytes with
      | some (_, mh, r) => tlHandleMessage store env.connectionId mh r (received s sequence)
      | none => (false, received s sequence) := by
  have unread : (false, s) = (false, received s s.ctx.transport.lastRxSequence) := rfl
  by_cases short : env.bytes.length < packetHeaderSize + messageHeaderSize
  · exact ⟨_, by simpa only [tlHandleEnvelope, openPacket, if_pos short] using unread⟩
  · rcases header : decodePacketHeader.run (prInit env.bytes) with ⟨_ | ph, r⟩
    · exact ⟨_, by simpa only [tlHandleEnvelope, openPacket, if_neg short, header] using unread⟩
    · cases valid : f4mpValidatePacketHeader ph with
      | false =>
          refine ⟨s.ctx.transport.lastRxSequence, ?_⟩
          simp [tlHandleEnvelope, openPacket, header, valid, ← unread]
      | true =>
          refine ⟨ph.sequence, ?_⟩
          simp only [tlHandleEnvelope, openPacket, if_neg short, header, valid, if_true]
          rcases decodeMessageHeader.run r with ⟨_ | mh, r⟩
          · rfl
          · cases check : f4mpValidateMessageHeader mh <;> simp [check]

theorem tlHandleEnvelope_hello {store : ProfileStore} {env : TransportEnvelope}
    {playerGuid playerName : Text} (hello : helloOf? env.bytes = some (playerGuid, playerName))
    (s : ServiceState F) : ∃ sequence, tlHandleEnvelope store env s =
      tlAcceptHello store env.connectionId playerGuid playerName (received s sequence) := by
  obtain ⟨sequence, opened⟩ := tlHandleEnvelope_open store env s
  refine ⟨sequence, ?_⟩
  rw [opened]
  simp only [helloOf?] at hello
  split at hello
  · cases hello
  · rename_i mh r packet
    split at hello
    · rename_i isHello
      split at hello
      · rename_i decoded
        obtain ⟨rfl, rfl⟩ := Prod.mk.inj (Option.some.inj hello)
        simp only [packet, tlHandleMessage, if_pos isHello, tlHandleHello]
        rw [run_of_success decoded]
      · cases hello
    · cases hello

theorem tlHandleEnvelope_accepted [LawfulWireFloat F] {store : ProfileStore}
    {env : TransportEnvelope} {s : ServiceState F} {playerGuid playerName : Text}
    (hello : helloOf? env.bytes = some (playerGuid, playerName))
    (accepted : (tlHandleEnvelope store env s).1 = true) : ∃ sequence id taken slot,
      takeSeat (received s sequence) playerGuid env.connectionId = some (id, taken) ∧
      findPlayer taken.session id = some slot ∧
      (tlHandleEnvelope store env s).2 =
        (fillSeat store playerGuid playerName env.connectionId id taken).post
          (helloPosts store playerGuid playerName env.connectionId id slot taken) := by
  obtain ⟨sequence, handled⟩ := tlHandleEnvelope_hello hello s
  rw [handled] at accepted ⊢
  cases takes : takeSeat (received s sequence) playerGuid env.connectionId with
  | none =>
      simp only [tlAcceptHello, takes] at accepted
      cases accepted
  | some seat =>
      obtain ⟨id, taken⟩ := seat
      obtain ⟨slot, found⟩ := findPlayer_takeSeat takes
      obtain ⟨posts, ok, _, complete, _, answered⟩ :=
        tlAcceptHello_posts takes found
      rw [answered] at accepted ⊢
      exact ⟨sequence, id, taken, slot, takes, found, by rw [complete accepted]⟩

theorem tlHandleEnvelope_opened (store : ProfileStore) {env : TransportEnvelope} {type : MessageType}
    {r : PacketReader} (opens : OpensAt env.bytes type r) (notHello : type ≠ .hello)
    (s : ServiceState F) : ∃ sequence, tlHandleEnvelope store env s =
      match tlFindPlayerByConnection s.session env.connectionId with
      | none => (false, received s sequence)
      | some player => tlHandlePlayerMessage (some type) env.connectionId player.playerId r
          (received s sequence) := by
  obtain ⟨sequence, opened⟩ := tlHandleEnvelope_open store env s
  obtain ⟨_, _, packet, known⟩ := opens
  refine ⟨sequence, ?_⟩
  have other : ¬ some type = some MessageType.hello := fun same => notHello (Option.some.inj same)
  rw [opened]
  simp only [packet, tlHandleMessage, known, if_neg other]
  rfl

/-- Every envelope ends in one of the outcomes. -/
theorem tlHandleEnvelope_outcome [LawfulWireFloat F] (store : ProfileStore)
    (env : TransportEnvelope) (s : ServiceState F) : ∃ sequence posts,
      Outcome store env (received s sequence) posts (tlHandleEnvelope store env s) := by
  cases hello : helloOf? env.bytes with
  | some names =>
      obtain ⟨sequence, handled⟩ := @tlHandleEnvelope_hello _ _ _ store env _ _ hello s
      rw [handled]
      refine ⟨sequence, ?_⟩
      cases takes : takeSeat (received s sequence) names.1 env.connectionId with
      | none =>
          simp only [tlAcceptHello, takes]
          exact ⟨_, .ignored⟩
      | some seat =>
          obtain ⟨id, taken⟩ := seat
          obtain ⟨slot, found⟩ := findPlayer_takeSeat takes
          obtain ⟨posts, ok, isPrefix, complete, stopped, answered⟩ :=
            @tlAcceptHello_posts _ _ _ _ store _ _ names.2 _ _ _ _ takes found
          rw [answered]
          exact ⟨posts, .seated hello takes found isPrefix complete stopped⟩
  | none =>
      obtain ⟨sequence, opened⟩ := tlHandleEnvelope_open store env s
      rw [opened]
      refine ⟨sequence, ?_⟩
      split
      · rename_i mh r packet
        simp only [tlHandleMessage]
        split
        · rename_i isHello
          simp only [helloOf?, packet, if_pos isHello] at hello
          simp only [tlHandleHello]
          split at hello
          · cases hello
          · rename_i undecoded
            split
            · exact ⟨_, .ignored⟩
            · rename_i decoded
              rw [decoded] at undecoded
              cases undecoded
        · split
          · exact ⟨_, .ignored⟩
          · rename_i player byConnection
            exact tlHandlePlayerMessage_outcome
              (fun _ known => ⟨_, mh, packet, known⟩) byConnection
      · exact ⟨_, .ignored⟩

end Outcomes

end F4MP.Service

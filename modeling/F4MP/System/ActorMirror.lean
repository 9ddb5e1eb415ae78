import F4MP.Client.ActorProxy
import F4MP.Service.Discipline
import F4MP.System.Mirror

/-!
# An actor that a client shows

A client that has applied the spawn and the state of an actor shows its life as the session has it,
after every step of a service that ticks behind every envelope it handles.
-/

namespace F4MP.System
open SoftFloat CFloat Protocol Service Client Transition MessageFlags

variable {F U : Type} [CFloat F]

/-! ## The map of a session -/

def liveView (a : ActorRuntimeState F) : ActorView F :=
  ⟨a.replicatedState.healthNorm, a.replicatedState.actorFlags, a.dead⟩

/-- The actors in use. -/
def actorsHeld (s : SessionState F) : ActorMap F := Slots.view liveView s.actors.slots

/-- What a hit does to an actor. -/
def hitView (view : ActorView F) : ActorView F :=
  let health := healthAfterHit view.healthNorm
  let flags := if le health (lit 0 1) then view.actorFlags ||| ActorStateFlags.dead
    else view.actorFlags
  ⟨health, flags, flags &&& ActorStateFlags.dead != 0⟩

theorem liveView_hit (a : ActorRuntimeState F) : liveView a.hit = hitView (liveView a) := rfl

theorem actorsHeld_hit {s after : SessionState F} {i : Nat} {target : ActorRuntimeState F}
    (distinct : Slots.Distinct s.actors.slots) (at_ : s.actors.slots[i]? = some target)
    (inUse : target.inUse = true) (shot : after.actors = s.actors.modify i .hit) :
    actorsHeld after = Function.update (actorsHeld s) target.actorNetId
      (some (liveView target.hit)) := by
  have written : after.actors.slots =
      Slots.modifyFirst (Slots.holds target.actorNetId) .hit s.actors.slots := by
    rw [shot]
    exact Slots.modify_holds distinct at_ inUse _
  have found : actorsHeld s target.actorNetId = some (liveView target) :=
    congrArg (Option.map liveView) (Slots.lookup_of_mem distinct (List.mem_of_getElem? at_) inUse)
  have keeps : ∀ a : ActorRuntimeState F, Slots.holds target.actorNetId a = true →
      Slots.holds target.actorNetId a.hit = true := fun _ held => held
  rw [actorsHeld, written, Slots.view_update keeps liveView_hit, ← actorsHeld, found]
  rfl

theorem actorsHeld_removed {s : SessionState F} (distinct : Slots.Distinct s.actors.slots)
    (ids : List ActorNetId) (v : ActorNetId) :
    actorsHeld (ids.foldl wsRemoveActor s) v = if v ∈ ids then none else actorsHeld s v := by
  induction ids generalizing s with
  | nil => rfl
  | cons id rest ih =>
      have distinct' : Slots.Distinct (wsRemoveActor s id).actors.slots := distinct.release rfl
      have removed : actorsHeld (wsRemoveActor s id) = Function.update (actorsHeld s) id none :=
        Slots.view_release distinct rfl
      rw [List.foldl_cons, ih distinct', removed]
      by_cases same : v = id
      · rw [same, Function.update_self, if_pos List.mem_cons_self]
        split <;> rfl
      · simp only [Function.update_of_ne same, List.mem_cons, same, false_or]

theorem actorsHeld_tick {s : ServiceState F} (countable : Countable s.session) (v : ActorNetId) :
    actorsHeld (tickSession s) v =
      if v ∈ fallenIds s.session then none else actorsHeld s.session v := by
  have marked := markedSession_actors countable
  have distinct : Slots.Distinct (markedSession s).actors.slots := by
    rw [marked]
    exact countable.distinct.map fun a live => ⟨a.mark_inUse.symm.trans live, a.mark_actorNetId⟩
  have seen : ∀ a : ActorRuntimeState F, liveView a.mark = liveView a := by
    intro a
    rw [ActorRuntimeState.mark]
    split <;> rfl
  have held : actorsHeld (markedSession s) = actorsHeld s.session := by
    funext k
    rw [actorsHeld, Slots.view, marked,
      Slots.lookup_map ActorRuntimeState.mark_inUse ActorRuntimeState.mark_actorNetId, Option.map_map,
      show liveView ∘ ActorRuntimeState.mark = (liveView : ActorRuntimeState F → ActorView F) from
        funext seen]
    rfl
  rw [tickSession, actorsHeld_removed distinct, actorsToDespawn_marked countable, held]

/-! ## What the client shows of one actor -/

structure ShowsActor (v : ActorNetId) (view : Option (ActorView F)) (c : ClientState F U) : Prop where
  distinct : Slots.Distinct c.actors.slots
  shown : actorsShown c.actors v = view

section Client
variable {backend : RemoteProxyBackend F U} {connectionId : UInt32} {v : ActorNetId}
  {view : Option (ActorView F)} {c : ClientState F U}

theorem ShowsActor.other (shows_ : ShowsActor v view c) {type : MessageType} {body : Body F type}
    (other : aboutActor type body ≠ some v) :
    ShowsActor v view (applyMessage backend type body c).2 :=
  ⟨applyMessage_distinct backend shows_.distinct type body,
    (applyMessage_shown_other backend shows_.distinct other).trans shows_.shown⟩

theorem ShowsActor.others (shows_ : ShowsActor v view c) {posts : List (Post F)}
    (others : ∀ p ∈ posts, aboutActor p.type p.body ≠ some v) :
    ShowsActor v view (posts.foldl (applyPost backend connectionId) c) :=
  applyPosts_keep (fun p member _ before => before.other (others p member)) shows_

theorem ShowsActor.despawn (shows_ : ShowsActor v view c) (reason : UInt8) :
    ShowsActor v none (applyMessage backend .actorDespawn { actorNetId := v, reason } c).2 where
  distinct := applyMessage_distinct backend shows_.distinct _ _
  shown := by rw [applyActorDespawn_shown backend shows_.distinct, Function.update_self]

theorem ShowsActor.damage {a : ActorView F} (shows_ : ShowsActor v (some a) c)
    {msg : MsgDamageResult F} (victim : msg.victimActorNetId = v) :
    ShowsActor v (some (a.damage msg)) (applyMessage backend .damageResult msg c).2 where
  distinct := applyMessage_distinct backend shows_.distinct _ _
  shown := by rw [applyDamageResult_shown, victim, shows_.shown, Function.update_self]; rfl

theorem ShowsActor.state {a : ActorView F} (shows_ : ShowsActor v (some a) c)
    {msg : MsgActorState F} (about : msg.actorNetId = v) :
    ShowsActor v (some (a.state msg)) (applyMessage backend .actorState msg c).2 where
  distinct := applyMessage_distinct backend shows_.distinct _ _
  shown := by
    rw [applyActorState_known backend (about ▸ shows_.shown), about, Function.update_self]

theorem ShowsActor.die {a : ActorView F} (shows_ : ShowsActor v (some a) c) {msg : MsgDeathEvent}
    (victim : msg.victimActorNetId = v) :
    ShowsActor v (some a.die) (applyMessage backend .deathEvent msg c).2 where
  distinct := applyMessage_distinct backend shows_.distinct _ _
  shown := by rw [applyDeathEvent_shown, victim, shows_.shown, Function.update_self]; rfl

theorem ShowsActor.spawn {a : ActorView F} (shows_ : ShowsActor v (some a) c)
    {msg : MsgActorSpawn F} (about : msg.actorNetId = v) :
    ShowsActor v (some .spawned) (applyMessage backend .actorSpawn msg c).2 where
  distinct := applyMessage_distinct backend shows_.distinct _ _
  shown := by
    cases done : (applyMessage backend .actorSpawn msg c).1 with
    | true => rw [applyActorSpawn_shown backend done, about, Function.update_self]
    | false =>
        have absent := (proxySpawnActor_refused done).2
        rw [show actorsShown c.actors msg.actorNetId = some a from about ▸ shows_.shown] at absent
        cases absent

theorem ShowsActor.despawnPosts {s : SessionState F} (connected : Connected connectionId s)
    (shows_ : ShowsActor v view c) (ids : List ActorNetId) :
    ShowsActor v (if v ∈ ids then none else view)
      ((Service.despawnPosts s ids).foldl (applyPost backend connectionId) c) := by
  induction ids generalizing view c with
  | nil => exact shows_
  | cons id rest ih =>
      rw [Service.despawnPosts, List.flatMap_cons, List.foldl_append]
      by_cases same : v = id
      · subst same
        have gone : ShowsActor v none ((toConnected s .actorDespawn
            (reliable ||| ordered ||| ch1World) { actorNetId := v, reason := adespawnDead }).foldl
              (applyPost backend connectionId) c) :=
          applyPosts_toConnected (P := ShowsActor v view) _ connected
            (fun c before => before.despawn _) (fun c before => before.despawn _) shows_
        have rest := ih gone
        rw [if_pos List.mem_cons_self]
        rwa [ite_self] at rest
      · have silent : ∀ p ∈ toConnected s .actorDespawn (reliable ||| ordered ||| ch1World)
            { actorNetId := id, reason := adespawnDead }, aboutActor p.type p.body ≠ some v := by
          intro p member about
          obtain ⟨_, _, _, rfl⟩ := mem_toConnected member
          exact same (Option.some.inj about).symm
        simp only [List.mem_cons, same, false_or]
        exact ih (shows_.others silent)

/-- A message to everyone that does the same when it comes twice. -/
theorem ShowsActor.told {s : SessionState F} (connected : Connected connectionId s)
    {type : MessageType} (flags : UInt16) {body : Body F type} {f : ActorView F → ActorView F}
    (tells : ∀ a (c : ClientState F U), ShowsActor v (some a) c →
      ShowsActor v (some (f a)) (applyMessage backend type body c).2)
    (again : ∀ a, f (f a) = f a) {a : ActorView F} (shows_ : ShowsActor v (some a) c) :
    ShowsActor v (some (f a))
      ((toConnected s type flags body).foldl (applyPost backend connectionId) c) := by
  refine applyPosts_toConnected (P := ShowsActor v (some a)) (Q := ShowsActor v (some (f a))) flags
    connected (tells a) (fun c before => ?_) shows_
  have twice := tells (f a) c before
  rwa [again] at twice

theorem liveView_told {target : ActorRuntimeState F} (attacker : PlayerId)
    (alive : target.dead = false)
    (kills : le target.hit.replicatedState.healthNorm (lit 0 1) = true →
      target.hit.replicatedState.healthNorm = lit 0 1) :
    let told := ((liveView target).damage (hitDamage attacker target)).state
      target.hit.replicatedState
    liveView target.hit = if le target.hit.replicatedState.healthNorm (lit 0 1) then told.die
      else told := by
  intro told
  have health : told.healthNorm = target.hit.replicatedState.healthNorm := rfl
  have flags : told.actorFlags = target.hit.replicatedState.actorFlags := rfl
  cases lethal : le target.hit.replicatedState.healthNorm (lit 0 1) with
  | true =>
      rw [if_pos rfl, liveView, target.hit_dead lethal, kills lethal, ActorView.die, flags]
  | false =>
      have unmarked : target.hit.dead = false := by
        have kept : target.hit.replicatedState.actorFlags = target.replicatedState.actorFlags :=
          if_neg (by rw [show le (healthAfterHit target.replicatedState.healthNorm) (lit 0 1) = false
            from lethal]; exact Bool.false_ne_true)
        rw [ActorRuntimeState.dead, kept]
        exact alive
      have shown : told.isDead = false := by
        have wounded : ((liveView target).damage (hitDamage attacker target)).isDead = false := by
          simp only [ActorView.damage, hitDamage, lethal, Bool.false_eq_true, if_false, Bool.or_false]
          exact alive
        simp only [told, ActorView.state, wounded, ite_self]
      rw [if_neg Bool.false_ne_true, liveView, unmarked, ← shown]
      rfl

theorem ShowsActor.hitPosts {after : SessionState F} {target : ActorRuntimeState F}
    (connected : Connected connectionId after) (attacker : PlayerId)
    (numbered : target.actorNetId ≠ 0)
    (found : findActor after target.actorNetId = some target.hit)
    (stamped : target.replicatedState.actorNetId = target.actorNetId) (alive : target.dead = false)
    (kills : le target.hit.replicatedState.healthNorm (lit 0 1) = true →
      target.hit.replicatedState.healthNorm = lit 0 1)
    (shows_ : ShowsActor target.actorNetId (some (liveView target)) c) :
    ShowsActor target.actorNetId (some (liveView target.hit))
      ((Service.hitPosts after attacker target).foldl (applyPost backend connectionId) c) := by
  have victim : (hitDamage attacker target).victimActorNetId = target.actorNetId := rfl
  have killed : (hitDeath attacker target).victimActorNetId = target.actorNetId := rfl
  have wounded : ShowsActor target.actorNetId (some ((liveView target).damage _))
      ((toConnected after .damageResult (reliable ||| ordered ||| ch2Combat)
        (hitDamage attacker target)).foldl (applyPost backend connectionId) c) :=
    shows_.told connected _ (fun _ _ before => before.damage victim) (ActorView.damage_damage _)
  have about : target.hit.replicatedState.actorNetId = target.actorNetId := stamped
  have stated : ShowsActor target.actorNetId
      (some (((liveView target).damage _).state target.hit.replicatedState))
      ((toConnected after .actorState ch1World target.hit.replicatedState).foldl
        (applyPost backend connectionId) _) :=
    wounded.told connected _ (fun _ _ before => before.state about) (ActorView.state_state _)
  rw [Service.hitPosts, if_neg numbered, found, liveView_told attacker alive kills]
  simp only [Option.toList_some, List.flatMap_cons, List.flatMap_nil, List.append_nil,
    List.foldl_append]
  split
  · exact stated.told connected _ (fun _ _ before => before.die killed) fun _ => rfl
  · exact stated

theorem liveView_replayed {a : ActorRuntimeState F} (alive : a.dead = false) :
    ActorView.spawned.state a.replicatedState = liveView a := by
  rw [liveView, alive]
  simp only [ActorView.state, ActorView.spawned, ite_self]

theorem ShowsActor.replayed {s : SessionState F} (sound : ActorsSound s)
    {a : ActorRuntimeState F} (listed : a ∈ s.actors.slots) (inUse : a.inUse = true)
    (alive : a.dead = false) (to_ : UInt32) (shows_ : ShowsActor v (actorsHeld s v) c) :
    ShowsActor v (actorsHeld s v) ([⟨to_, .actorSpawn, reliable ||| ordered ||| ch1World,
      actorSpawnMsg a⟩, ⟨to_, .actorState, ch1World, a.replicatedState⟩].foldl
        (applyPost backend connectionId) c) := by
  have stamped := sound.stamped a listed inUse
  by_cases same : a.actorNetId = v
  · subst same
    have held : actorsHeld s a.actorNetId = some (liveView a) :=
      congrArg (Option.map liveView) (Slots.lookup_of_mem sound.fresh.distinct listed inUse)
    rw [held] at shows_ ⊢
    simp only [List.foldl_cons, List.foldl_nil, applyPost]
    split
    · have spawned : ShowsActor a.actorNetId (some .spawned)
          (applyMessage backend .actorSpawn (actorSpawnMsg a) c).2 := shows_.spawn rfl
      exact liveView_replayed alive ▸ spawned.state stamped
    · exact shows_
  · refine shows_.others fun p member => ?_
    simp only [List.mem_cons, List.not_mem_nil, or_false] at member
    rcases member with rfl | rfl
    · exact fun about => same (Option.some.inj about)
    · exact fun about => same (stamped.symm.trans (Option.some.inj about))

theorem ShowsActor.replay {s : SessionState F} (sound : ActorsSound s)
    (alive : ∀ a ∈ s.actors.slots, a.fallen = false) (to_ : UInt32) (id : PlayerId)
    (shows_ : ShowsActor v (actorsHeld s v) c) : ShowsActor v (actorsHeld s v)
      ((replayPosts s to_ id).foldl (applyPost backend connectionId) c) := by
  simp only [replayPosts, List.foldl_append]
  refine ShowsActor.others ?_ fun p member => ?_
  · rw [List.foldl_flatMap]
    refine List.foldlRecOn _ _ (shows_.others fun p member => ?_) fun c before a member => ?_
    · obtain ⟨player, _, rfl⟩ := List.mem_map.mp member
      exact fun about => by cases about
    obtain ⟨listed, both⟩ := List.mem_filter.mp member
    have inUse := (Bool.and_eq_true_iff.mp both).1
    have standing := alive a listed
    rw [ActorRuntimeState.fallen, inUse, Bool.true_and] at standing
    exact before.replayed sound listed inUse standing to_
  · obtain ⟨o, _, rfl⟩ := List.mem_map.mp member
    exact fun about => by cases about

end Client

/-! ## A step of both -/

section Steps
variable [WireFloat F] {backend : RemoteProxyBackend F U} {connectionId : UInt32} {v : ActorNetId}
  {m : Mirror F U} {c : ClientState F U}

omit [CFloat F] [WireFloat F] in
theorem actorsHeld_eq {s after : SessionState F} (same : after.actors = s.actors) :
    actorsHeld after = actorsHeld s := by rw [actorsHeld, same, actorsHeld]

omit [CFloat F] [WireFloat F] in
theorem toConnected_others {s : SessionState F} {type : MessageType} {flags : UInt16}
    {body : Body F type} (other : aboutActor type body = none) {p : Post F}
    (member : p ∈ toConnected s type flags body) : aboutActor p.type p.body ≠ some v := by
  obtain ⟨_, _, _, rfl⟩ := mem_toConnected member
  exact fun about => by cases other.symm.trans about

omit [WireFloat F] in
theorem ShowsActor.shot {s after : SessionState F} {i : Nat} {target : ActorRuntimeState F}
    (kills : KillsAtZero F) (sound : ActorsSound s) (soundAfter : ActorsSound after)
    (at_ : s.actors.slots[i]? = some target) (inUse : target.inUse = true)
    (alive : target.dead = false) (shot : after.actors = s.actors.modify i .hit)
    (connected : Connected connectionId after) (attacker : PlayerId)
    (shows_ : ShowsActor v (actorsHeld s v) c) : ShowsActor v (actorsHeld after v)
      ((Service.hitPosts after attacker target).foldl (applyPost backend connectionId) c) := by
  have listed := List.mem_of_getElem? at_
  have looked : Slots.lookup target.actorNetId s.actors.slots = some target :=
    Slots.lookup_of_mem sound.fresh.distinct listed inUse
  have keeps : ∀ a : ActorRuntimeState F, Slots.holds target.actorNetId a = true →
      Slots.holds target.actorNetId a.hit = true := fun _ held => held
  have found : findActor after target.actorNetId = some target.hit := by
    have written : after.actors.slots =
        Slots.modifyFirst (Slots.holds target.actorNetId) .hit s.actors.slots := by
      rw [shot]
      exact Slots.modify_holds sound.fresh.distinct at_ inUse _
    rw [findActor, written, Slots.lookup_update keeps, if_pos rfl, looked]
    rfl
  rw [actorsHeld_hit sound.fresh.distinct at_ inUse shot]
  by_cases same : v = target.actorNetId
  · subst same
    have held : actorsHeld s target.actorNetId = some (liveView target) :=
      congrArg (Option.map liveView) looked
    rw [held] at shows_
    rw [Function.update_self]
    refine shows_.hitPosts connected attacker (sound.numbered target listed inUse) found
      (sound.stamped target listed inUse) alive fun lethal => ?_
    obtain ⟨hits, health⟩ := sound.wounded target listed inUse
    have next : target.hit.replicatedState.healthNorm = healthAfterHits (hits + 1) := by
      rw [healthAfterHits, Function.iterate_succ_apply', ← healthAfterHits, ← health]
      rfl
    rw [next] at lethal ⊢
    exact kills _ lethal
  · rw [Function.update_of_ne same]
    refine shows_.others fun p member about => ?_
    obtain ⟨_, _, _, rfl | ⟨actor, foundActor, rfl⟩ | ⟨_, rfl⟩⟩ := mem_hitPosts member
    · exact same (Option.some.inj about).symm
    · obtain ⟨live, key⟩ := Slots.lookup_key foundActor
      have stamped := soundAfter.stamped actor (Slots.lookup_mem foundActor) live
      exact same ((Option.some.inj about).symm.trans (stamped.trans key))
    · exact same (Option.some.inj about).symm

/-- What an envelope posts shows the client what it does to the actor. -/
theorem ShowsActor.envelope {store : ProfileStore} {env : TransportEnvelope}
    {s after : ServiceState F} {posts : List (Post F)} {ok : Bool}
    (outcome : Outcome store env s posts (ok, after)) (kills : KillsAtZero F)
    (empty : s.ctx.outputs = []) (sound : ActorsSound s.session)
    (alive : ∀ a ∈ s.session.actors.slots, a.fallen = false)
    (connected : Connected connectionId s.session) (shows_ : ShowsActor v (actorsHeld s.session v) c) :
    ShowsActor v (actorsHeld after.session v)
      (posts.foldl (applyPost backend connectionId) c) := by
  have soundAfter := ActorsSound.envelope outcome sound
  have silent : ∀ {t : SessionState F}, t.actors = s.session.actors →
      (∀ p ∈ posts, aboutActor p.type p.body ≠ some v) →
      ShowsActor v (actorsHeld t v) (posts.foldl (applyPost backend connectionId) c) :=
    fun same others => actorsHeld_eq same ▸ shows_.others others
  cases outcome with
  | ignored => exact shows_
  | @seated playerGuid playerName id taken slot _ _ hello takes found isPrefix complete stopped =>
      cases ok with
      | false =>
          have full := stopped rfl
          rw [empty] at full
          exact absurd full (by decide)
      | true =>
          obtain ⟨players, connectedCount, registry, frame⟩ := takeSeat_frame takes
          have actors : (fillSeat store playerGuid playerName env.connectionId id taken).session.actors =
              s.session.actors := by
            rw [frame]
            rfl
          rw [complete rfl, helloPosts, List.foldl_append]
          refine ShowsActor.replay soundAfter (fun a member => alive a (actors ▸ member)) _ _ ?_
          rw [post_session, actorsHeld_eq actors]
          refine shows_.others fun p member about => ?_
          simp only [answerPosts, welcomePost, profilePosts, List.mem_cons, List.not_mem_nil,
            or_false] at member
          rcases member with rfl | rfl | rfl | rfl | rfl <;> cases about
  | kept _ _ personal =>
      refine silent rfl fun p member => ?_
      obtain ⟨_, type, _, body⟩ := p
      rcases personal _ member with rfl | rfl <;> exact fun about => by cases about
  | left _ posted =>
      subst posted
      exact silent rfl fun p => toConnected_others rfl
  | @hit player i target session _ _ at_ inUse standing _ shot posted =>
      subst posted
      have seats : session.seats = s.session.seats := shot ▸ seats_heard s player.playerId
      have still : Connected connectionId session := by
        rw [Connected, connections_of_seats seats]
        exact connected
      have modified : session.actors = s.session.actors.modify i .hit := by rw [shot]
      rw [post_session] at soundAfter ⊢
      exact shows_.shot kills sound soundAfter at_ inUse standing modified still _
  | refused _ _ _ posted =>
      subst posted
      exact silent rfl (List.forall_mem_singleton.mpr fun about => by cases about)
  | built _ _ _ placed posted =>
      subst placed posted
      refine silent rfl (List.forall_mem_cons.mpr ⟨(fun about => by cases about), fun p member => ?_⟩)
      obtain ⟨obj, _, listed⟩ := List.mem_flatMap.mp member
      exact toConnected_others rfl listed
  | moved _ changed posted =>
      subst changed posted
      exact silent rfl fun p => toConnected_others rfl
  | scrapped _ removed posted =>
      subst removed posted
      exact silent rfl fun p => toConnected_others rfl
  | selected applied =>
      obtain ⟨dialogue, rfl⟩ := dspApplySelection_frame applied
      exact shows_

/-- Nothing that a step posts is dropped. -/
def Undropped (s : ServiceState F) (e : NetworkEvent) : Prop :=
  ∃ posts, NetworkPosts s e posts (networkStep s e) ∧ posts.length ≤ maxOutputs

theorem undropped_of_room [LawfulWireFloat F] {s : ServiceState F} {e : NetworkEvent}
    (empty : s.ctx.outputs = []) (room : (networkStep s e).ctx.outputs.length < maxOutputs) :
    Undropped s e := by
  obtain ⟨posts, taken, _, queue⟩ := networkStep_posts s e
  rw [queue, empty, List.nil_append, queuedPosts, List.length_take, stamp_length, empty,
    List.length_nil] at room
  exact ⟨posts, taken, by omega⟩

/-- The client stays connected, and nothing is dropped. -/
structure ActorsFit (connectionId : UInt32) (m : Mirror F U) (e : NetworkEvent) : Prop where
  before : Connected connectionId m.service.session
  after : Connected connectionId (networkStep m.service e).session
  whole : Undropped m.service e

structure ActorMirrored (v : ActorNetId) (m : Mirror F U) : Prop where
  cleared : m.service.ctx.outputs = []
  sound : ActorsSound m.service.session
  shows_ : ShowsActor v (actorsHeld m.service.session v) m.client

omit [WireFloat F] in
theorem ActorMirrored.flushed {s : ServiceState F} {c : ClientState F U}
    (sound : ActorsSound s.session) (shows_ : ShowsActor v (actorsHeld s.session v) c) :
    ActorMirrored v ⟨tlClearOutputs s, c⟩ := ⟨rfl, sound, shows_⟩

theorem mirrorStep_actorMirrored [LawfulWireFloat F] (kills : KillsAtZero F)
    (inv : ActorMirrored v m) {e : NetworkEvent} {rest : List NetworkEvent}
    (settled : Settled m.service.session (e :: rest)) (fits : ActorsFit connectionId m e) :
    ActorMirrored v (mirrorStep backend connectionId m e) := by
  obtain ⟨before, after, posts, taken, room⟩ := fits
  cases taken with
  | tick =>
      have few := settled.few
      have countable : Countable m.service.session := inv.sound.fresh.countable (by omega)
      have session : (networkStep m.service .tick).session = tickSession m.service := by
        rw [networkStep, tlTick_posts]
      have queue : (networkStep m.service .tick).ctx.outputs =
          m.service.ctx.outputs ++ queuedPosts m.service (tickPosts m.service) :=
        tlTick_outputs m.service
      rw [session] at after
      rw [mirrorStep_queued backend connectionId inv.cleared (tickPosts_sendable m.service) queue,
        List.take_of_length_le room]
      refine ActorMirrored.flushed (by rw [session]; exact (inv.sound.tick few).1) ?_
      have players : (markedSession m.service).players = (tickSession m.service).players := by
        rw [tickSession_players, markedSession, acTick_frame]
      have still : Connected connectionId (markedSession m.service) := by
        rwa [Connected, connections, players]
      rw [session, actorsHeld_tick countable, tickPosts, List.foldl_append,
        actorsToDespawn_marked countable]
      refine ShowsActor.despawnPosts still (inv.shows_.others fun p member about => ?_) _
      obtain ⟨_, _, _, rfl⟩ := mem_leavePosts member
      cases about
  | @envelope store env sequence _ ok _ outcome =>
      have standing : Standing m.service.session := settled.resolve_right fun dead => by
        cases dead.2 _ rfl
      have queue : (networkStep m.service (.envelope store env)).ctx.outputs =
          m.service.ctx.outputs ++ queuedPosts m.service posts := outcome.outputs
      rw [mirrorStep_queued backend connectionId inv.cleared outcome.sendable queue,
        List.take_of_length_le room]
      have sound : ActorsSound (received m.service sequence).session := inv.sound
      exact ActorMirrored.flushed (sound.envelope outcome)
        (inv.shows_.envelope outcome kills inv.cleared inv.sound standing.alive before)

theorem run_actorMirrored_of_settled [LawfulWireFloat F] (kills : KillsAtZero F)
    (inv : ActorMirrored v m) {events : List NetworkEvent}
    (settled : Settled m.service.session events) (ticked : Ticked m.service events)
    (fit : Along (mirrorStep backend connectionId) (ActorsFit connectionId) m events) :
    ActorMirrored v (run (mirrorStep backend connectionId) m events) := by
  induction events generalizing m with
  | nil => exact inv
  | cons e rest ih =>
      obtain ⟨ticks, later⟩ := ticked
      have next : ActorMirrored v (mirrorStep backend connectionId m e) :=
        mirrorStep_actorMirrored kills inv settled fit.1
      exact ih next (clearedStep_settled inv.sound settled ticks).2 later fit.2

end Steps

/-- A client to which an actor was replayed when it joined shows, after every step of a service that
ticks behind what it handles, the health, the flags and the death of that actor, for as long as the
actor is in use. -/
theorem run_actorMirrored (backend : RemoteProxyBackend Binary32 U) (connectionId : UInt32)
    (sessionId : SessionId) (rules : UInt32) (tickRate : UInt16) (whitelist : List UInt32)
    (setup : List (ServiceEvent Binary32)) (past events : List NetworkEvent) (store : ProfileStore)
    (hello : TransportEnvelope) (names : Text × Text) (packets : List (List UInt8))
    (localPlayerId : PlayerId) (user : U) (v : ActorNetId) (a : ActorRuntimeState Binary32) :
    let placed := run serviceStep (freshService sessionId rules tickRate whitelist) setup
    let joined := clearedStep (run clearedStep placed past) (.envelope store hello)
    let client := applyPackets backend packets (freshClient localPlayerId user)
    (∀ e ∈ setup, e.offline = true) →
    Along serviceStep (fun s e => s.nextActorId ≤ (serviceStep s e).nextActorId)
      (freshService sessionId rules tickRate whitelist) setup →
    Ticked placed (past ++ .envelope store hello :: events) →
    helloOf? hello.bytes = some names →
    findActor joined.session v = some a →
    actorsShown client.actors v = some (ActorView.spawned.state a.replicatedState) →
    Along (mirrorStep backend connectionId) (ActorsFit connectionId) ⟨joined, client⟩ events →
    let after := run (mirrorStep backend connectionId) ⟨joined, client⟩ events
    actorsShown after.client.actors v = actorsHeld after.service.session v := by
  intro placed joined client offline counted ticked greets found applied fit after
  have staged : Staged placed := staged_of_setup sessionId rules tickRate whitelist offline counted
  obtain ⟨ticksPast, handled, ticks⟩ := ticked_append ticked
  obtain ⟨sound, settled⟩ := run_settled staged.sound (staged.settled _) ticked
  have next := clearedStep_settled sound settled handled
  have standing : Standing (run clearedStep placed past).session :=
    settled.resolve_right fun dead => by cases dead.2 _ rfl
  have actors : joined.session.actors = (run clearedStep placed past).session.actors :=
    clearedStep_hello greets
  have alive : a.dead = false := by
    have listed := Slots.lookup_mem found
    rw [actors] at listed
    have inUse : a.inUse = true := (Slots.lookup_key found).1
    have calm := standing.alive a listed
    rwa [ActorRuntimeState.fallen, inUse, Bool.true_and] at calm
  have distinct : Slots.Distinct client.actors.slots :=
    applyPackets_keep (P := fun c => Slots.Distinct c.actors.slots)
      (fun type body c before => applyMessage_distinct backend before type body) packets
      (.of_unused fun a member => by cases member)
  have held : actorsHeld joined.session v = some (ActorView.spawned.state a.replicatedState) := by
    rw [liveView_replayed alive]
    exact congrArg (Option.map liveView) found
  have start : ActorMirrored v (⟨joined, client⟩ : Mirror Binary32 U) :=
    ⟨rfl, next.1, distinct, applied.trans held.symm⟩
  exact (run_actorMirrored_of_settled binary32_killsAtZero start next.2 ticks fit).shows_.shown

def fireVolley (shots : Nat) : List NetworkEvent :=
  let shot : Body Binary32 .fireIntent := ⟨1, 0, 7, zeroVec, ⟨lit 1 1, lit 0 1, lit 0 1⟩, 0, {}, 0⟩
  (List.replicate shots
    [.envelope ⟨fun _ => none⟩ (envelopeOf 100 .fireIntent shot), .tick]).flatten

/-- A hostile is shot three times, and the client shows it wounded. -/
theorem run_actorMirrored_wounded :
    let fresh : ServiceState Binary32 := freshService 1 15 20 [7]
    let placed := serviceStep fresh (.spawnHostile 7 ⟨lit 10 1, lit 0 1, lit 0 1⟩)
    let greeting : Body Binary32 .hello := (⟨0, 0⟩, [0x41], [0x41])
    let hello := NetworkEvent.envelope ⟨fun _ => none⟩ (envelopeOf 100 .hello greeting)
    let joined := clearedStep placed hello
    let packets := (networkStep placed hello).ctx.outputs.map (·.bytes)
    let client := applyPackets defaultBackend packets (freshClient 1 ())
    let after := run (mirrorStep defaultBackend 100) ⟨joined, client⟩ (.tick :: fireVolley 3)
    actorsShown after.client.actors 2000 = actorsHeld after.service.session 2000 ∧
      actorsHeld after.service.session 2000 = some ⟨lit 1 4, ActorStateFlags.hostile, false⟩ := by
  intro fresh placed greeting hello joined packets client after
  obtain ⟨a, found⟩ : ∃ a, findActor joined.session 2000 = some a :=
    Option.isSome_iff_exists.mp (by decide +kernel)
  have shown : actorsShown client.actors 2000 = (findActor joined.session 2000).map
      fun a => ActorView.spawned.state a.replicatedState := by decide +kernel
  rw [found] at shown
  have fit : Along (mirrorStep defaultBackend 100) (fun m e => m.service.ctx.outputs = [] ∧
      Connected 100 m.service.session ∧ Connected 100 (networkStep m.service e).session ∧
        (networkStep m.service e).ctx.outputs.length < maxOutputs)
      ⟨joined, client⟩ (.tick :: fireVolley 3) := by decide +kernel
  refine ⟨run_actorMirrored defaultBackend 100 1 15 20 [7] [.spawnHostile 7 _] [] _ ⟨fun _ => none⟩
    (envelopeOf 100 .hello greeting) ([0x41], [0x41]) packets 1 () 2000 a (by decide)
    (by decide +kernel) (by decide +kernel) (by decide +kernel) found shown (fit.imp ?_),
    by decide +kernel⟩
  rintro m e ⟨cleared, before, after, room⟩
  exact ⟨before, after, undropped_of_room cleared room⟩

end F4MP.System

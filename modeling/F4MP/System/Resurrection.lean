import F4MP.System.Stream
import F4MP.System.ActorMirror

/-!
# Actors that have ended

A connection is told of an actor's death and of its despawn in order; the states of the actor may
come behind both.
-/

namespace F4MP.System
open SoftFloat CFloat Protocol Service Client Transition MessageFlags Delivery

variable {F U : Type} [CFloat F]

/-! ## The session -/

/-- Nothing alive is in use under this id. -/
def Ended (v : ActorNetId) (s : SessionState F) : Prop :=
  ∀ a ∈ s.actors.slots, a.inUse = true → a.actorNetId = v → a.dead = true

/-- A post that announces a death or a despawn. -/
def Post.ends (v : ActorNetId) (p : Post F) : Prop :=
  (p.type = .deathEvent ∨ p.type = .actorDespawn) ∧ aboutActor p.type p.body = some v

def Post.spawns (v : ActorNetId) (p : Post F) : Prop :=
  p.type = .actorSpawn ∧ aboutActor p.type p.body = some v

section Steps
variable [WireFloat F] [LawfulWireFloat F] {s after : ServiceState F} {e : NetworkEvent}
  {rest : List NetworkEvent} {posts : List (Post F)} {v : ActorNetId}

omit [WireFloat F] [LawfulWireFloat F] in
theorem Ended.tick (ended : Ended v s.session) (sound : ActorsSound s.session)
    (settled : Settled s.session (.tick :: rest)) : Ended v (tickSession s) := by
  intro a member inUse about
  have few := settled.few
  rw [tickSession_actors (sound.fresh.countable (by omega))] at member
  obtain ⟨b, listed, rfl⟩ := List.mem_map.mp member
  have same := (ActorRuntimeState.bury_inUse inUse).2
  rw [same] at inUse about ⊢
  exact ended b listed inUse about

omit [CFloat F] [WireFloat F] [LawfulWireFloat F] in
theorem Ended.absent (ended : Ended v s.session) (standing : Standing s.session) :
    ∀ a ∈ s.session.actors.slots, a.inUse = true → a.actorNetId ≠ v := by
  intro a member inUse about
  have alive := standing.alive a member
  rw [ActorRuntimeState.fallen, inUse, ended a member inUse about] at alive
  cases alive

omit [LawfulWireFloat F] in
theorem Ended.step (ended : Ended v s.session) (sound : ActorsSound s.session)
    (settled : Settled s.session (e :: rest)) (taken : NetworkPosts s e posts after) :
    Ended v after.session := by
  cases taken with
  | tick =>
      rw [tlTick_posts]
      exact ended.tick sound settled
  | envelope outcome =>
      have standing : Standing s.session := settled.resolve_right fun dead => by
        cases dead.2 _ rfl
      intro a member inUse about
      rcases outcome.struck.kept member with old | ⟨b, old, rfl⟩
      · exact ended a old inUse about
      · exact absurd about (ended.absent standing b old inUse)

omit [CFloat F] [WireFloat F] [LawfulWireFloat F] in
theorem ended_of_dead {session : SessionState F} (distinct : Slots.Distinct session.actors.slots)
    {a : ActorRuntimeState F} (member : a ∈ session.actors.slots) (inUse : a.inUse = true)
    (dead : a.dead = true) : Ended a.actorNetId session := by
  intro b listed live about
  have found := Slots.lookup_of_mem distinct member inUse
  have foundB : Slots.lookup b.actorNetId session.actors.slots = some b :=
    Slots.lookup_of_mem distinct listed live
  rw [about] at foundB
  rw [Option.some.inj (foundB.symm.trans found)]
  exact dead

/-- What an envelope posts about an actor. -/
inductive AboutActor (v : ActorNetId) (s after : SessionState F) (p : Post F) : Prop where
  | report (kind : p.type = .actorState ∨ p.type = .damageResult)
  | spawn (kind : p.type = .actorSpawn) (flags : p.flags = reliable ||| ordered ||| ch1World)
      (same : after.actors = s.actors) (listed : ∃ a ∈ s.actors.slots, a.inUse = true ∧
        a.actorNetId = v)
  | death (kind : p.type = .deathEvent) (flags : p.flags = reliable ||| ordered ||| ch2Combat)
      (listed : ∃ a ∈ after.actors.slots, a.inUse = true ∧ a.actorNetId = v ∧ a.dead = true)

omit [LawfulWireFloat F] in
theorem aboutActor_of_outcome {store : ProfileStore} {env : TransportEnvelope} {ok : Bool}
    (outcome : Outcome store env s posts (ok, after)) {p : Post F} (listed : p ∈ posts)
    (about : aboutActor p.type p.body = some v) :
    AboutActor v s.session after.session p := by
  cases outcome with
  | ignored => cases listed
  | @seated _ _ _ taken _ _ _ _ takes _ isPrefix =>
      obtain ⟨_, _, _, frame⟩ := takeSeat_frame takes
      rcases List.mem_append.mp (isPrefix.subset listed) with answer | shown
      · simp only [answerPosts, welcomePost, profilePosts, List.mem_cons, List.not_mem_nil,
          or_false] at answer
        rcases answer with rfl | rfl | rfl | rfl | rfl <;> cases about
      · have actors : ∀ store playerGuid playerName connectionId id,
            (fillSeat store playerGuid playerName connectionId id taken).session.actors =
              s.session.actors := by
          rw [frame]
          exact fun _ _ _ _ _ => rfl
        rcases mem_replayPosts shown with ⟨_, _, _, _, rfl⟩ | ⟨a, member, inUse, rfl | rfl⟩ |
          ⟨_, _, _, rfl⟩
        · cases about
        · rw [actors] at member
          exact .spawn rfl rfl (actors _ _ _ _ _) ⟨a, member, inUse, Option.some.inj about⟩
        · exact .report (.inl rfl)
        · cases about
  | kept _ _ personal =>
      obtain ⟨_, _, _, _⟩ := p
      rcases personal _ listed with rfl | rfl <;> cases about
  | left _ posted =>
      subst posted
      obtain ⟨_, _, _, rfl⟩ := mem_toConnected listed
      cases about
  | @hit player i target _ _ _ at_ inUse _ _ shot posted =>
      subst posted shot
      obtain ⟨_, _, _, rfl | ⟨actor, found, rfl⟩ | ⟨lethal, rfl⟩⟩ := mem_hitPosts listed
      · exact .report (.inr rfl)
      · exact .report (.inl rfl)
      · refine .death rfl rfl ⟨target.hit, ?_, inUse, Option.some.inj about, target.hit_dead lethal⟩
        have written : (s.session.actors.slots.modify i .hit)[i]? = some target.hit := by
          rw [List.getElem?_modify_eq, at_]
          rfl
        exact List.mem_of_getElem? written
  | refused _ _ _ posted =>
      rw [posted, List.mem_singleton] at listed
      subst listed
      cases about
  | built _ _ _ _ posted =>
      rw [posted, List.mem_cons] at listed
      rcases listed with rfl | spawned
      · cases about
      · obtain ⟨_, _, told⟩ := List.mem_flatMap.mp spawned
        obtain ⟨_, _, _, rfl⟩ := mem_toConnected told
        cases about
  | moved _ _ posted =>
      subst posted
      obtain ⟨_, _, _, rfl⟩ := mem_toConnected listed
      cases about
  | scrapped _ _ posted =>
      subst posted
      obtain ⟨_, _, _, rfl⟩ := mem_toConnected listed
      cases about
  | selected => cases listed

omit [LawfulWireFloat F] in
theorem ended_of_ends (sound : ActorsSound s.session) (settled : Settled s.session (e :: rest))
    (taken : NetworkPosts s e posts after) {p : Post F} (listed : p ∈ posts)
    (ends : Post.ends v p) : Ended v after.session := by
  obtain ⟨kind, about⟩ := ends
  cases taken with
  | tick =>
      have few := settled.few
      have countable : Countable s.session := sound.fresh.countable (by omega)
      rw [tickPosts, actorsToDespawn_marked countable] at listed
      rcases List.mem_append.mp listed with left | despawned
      · obtain ⟨_, _, _, rfl⟩ := mem_leavePosts left
        rcases kind with kind | kind <;> cases kind
      · obtain ⟨id, fallen, posted⟩ := List.mem_flatMap.mp despawned
        obtain ⟨_, _, _, rfl⟩ := mem_toConnected posted
        obtain rfl : id = v := Option.some.inj about
        obtain ⟨a, chosen, rfl⟩ := List.mem_map.mp fallen
        obtain ⟨member, both⟩ := List.mem_filter.mp chosen
        obtain ⟨inUse, dead⟩ := Bool.and_eq_true_iff.mp both
        rw [tlTick_posts]
        exact Ended.tick (ended_of_dead sound.fresh.distinct member inUse dead) sound settled
  | envelope outcome =>
      have soundAfter := ActorsSound.envelope outcome sound
      cases aboutActor_of_outcome outcome listed about with
      | report report => rcases kind with kind | kind <;> rcases report with report | report <;>
          cases kind.symm.trans report
      | spawn spawn => rcases kind with kind | kind <;> cases kind.symm.trans spawn
      | death _ _ dies =>
          obtain ⟨a, member, inUse, rfl, dead⟩ := dies
          exact ended_of_dead soundAfter.fresh.distinct member inUse dead

omit [LawfulWireFloat F] in
theorem not_ended_of_spawns (settled : Settled s.session (e :: rest))
    (taken : NetworkPosts s e posts after) {p : Post F} (listed : p ∈ posts)
    (spawns : Post.spawns v p) : ¬ Ended v after.session := by
  intro ended
  obtain ⟨kind, about⟩ := spawns
  cases taken with
  | tick =>
      rcases List.mem_append.mp listed with left | despawned
      · obtain ⟨_, _, _, rfl⟩ := mem_leavePosts left
        cases kind
      · obtain ⟨id, fallen, posted⟩ := List.mem_flatMap.mp despawned
        obtain ⟨_, _, _, rfl⟩ := mem_toConnected posted
        cases kind
  | envelope outcome =>
      have standing : Standing s.session := settled.resolve_right fun dead => by
        cases dead.2 _ rfl
      cases aboutActor_of_outcome outcome listed about with
      | report report => rcases report with report | report <;> cases kind.symm.trans report
      | spawn _ _ same there =>
          obtain ⟨a, member, inUse, named⟩ := there
          rw [Ended, same] at ended
          exact (show Ended v s.session from ended).absent standing a member inUse named
      | death death => cases kind.symm.trans death

omit [LawfulWireFloat F] in
theorem announces_flags (taken : NetworkPosts s e posts after) {p : Post F} (listed : p ∈ posts)
    (announces : Post.ends v p ∨ Post.spawns v p) :
    (p.flags &&& (reliable ||| ordered) == reliable ||| ordered) = true := by
  have onWorld : ((reliable ||| ordered ||| ch1World) &&& (reliable ||| ordered) ==
      reliable ||| ordered) = true := by decide
  cases taken with
  | tick =>
      rcases List.mem_append.mp listed with left | despawned
      · obtain ⟨_, _, _, rfl⟩ := mem_leavePosts left
        exact onWorld
      · obtain ⟨id, fallen, posted⟩ := List.mem_flatMap.mp despawned
        obtain ⟨_, _, _, rfl⟩ := mem_toConnected posted
        exact onWorld
  | envelope outcome =>
      have about : aboutActor p.type p.body = some v := announces.elim (·.2) (·.2)
      cases aboutActor_of_outcome outcome listed about with
      | report report =>
          rcases announces with ⟨kind | kind, _⟩ | ⟨kind, _⟩ <;> rcases report with report | report <;>
            cases kind.symm.trans report
      | spawn _ flags => exact flags ▸ onWorld
      | death _ flags => rw [flags]; decide

/-! ## The stream -/

/-- The packet announces the death of the actor, or its despawn. -/
def Ends (F : Type) [CFloat F] [WireFloat F] (v : ActorNetId) (bytes : List UInt8) : Prop :=
  Tells F .deathEvent v bytes ∨ Tells F .actorDespawn v bytes

omit [LawfulWireFloat F] in
theorem tells_post {bytes : List UInt8} {p : Post F} (carries : Carries bytes p.type p.body) :
    (Ends F v bytes → Post.ends v p) ∧ (Tells F .actorSpawn v bytes → Post.spawns v p) := by
  obtain ⟨_, type, _, body⟩ := p
  refine ⟨?_, ?_⟩
  · rintro (⟨msg, told, about⟩ | ⟨msg, told, about⟩)
    all_goals
      obtain rfl := carries.type_unique told
      obtain rfl := carries.unique told
    · exact ⟨.inl rfl, about⟩
    · exact ⟨.inr rfl, about⟩
  · rintro ⟨msg, told, about⟩
    obtain rfl := carries.type_unique told
    obtain rfl := carries.unique told
    exact ⟨rfl, about⟩

/-- A service of the network whose queue is clear and whose dead are despawned in time. -/
structure Streaming (s : ServiceState F) (events : List NetworkEvent) : Prop where
  cleared : s.ctx.outputs = []
  sound : ActorsSound s.session
  settled : Settled s.session events
  ticked : Ticked s events

theorem Streaming.next (streaming : Streaming s (e :: rest)) : Streaming (clearedStep s e) rest := by
  obtain ⟨_, sound, settled, ticks, later⟩ := streaming
  obtain ⟨next, calm⟩ := clearedStep_settled sound settled ticks
  exact ⟨rfl, next, calm, later⟩

theorem sentTo_spawnless (connectionId : UInt32) {events : List NetworkEvent}
    (streaming : Streaming s events) (ended : Ended v s.session) :
    ∀ bytes ∈ sentTo connectionId s events, ¬ Tells F .actorSpawn v bytes := by
  induction events generalizing s with
  | nil => exact nofun
  | cons e rest ih =>
      obtain ⟨posts, taken, carried⟩ := mem_sentTo_step (e := e) streaming.cleared
      have endedAfter : Ended v (networkStep s e).session :=
        ended.step streaming.sound streaming.settled taken
      intro bytes sent spawn
      rcases List.mem_append.mp sent with now | later
      · obtain ⟨p, posted, carries, _⟩ := carried connectionId bytes now
        exact not_ended_of_spawns streaming.settled taken posted ((tells_post carries).2 spawn)
          endedAfter
      · exact ih streaming.next endedAfter bytes later spawn

/-- Behind the death or the despawn of an actor no spawn of it is sent. -/
theorem sentTo_ordered (connectionId : UInt32) (v : ActorNetId) {events : List NetworkEvent}
    (streaming : Streaming s events) : (sentTo connectionId s events).Pairwise fun first later =>
      Ends F v first → ¬ Tells F .actorSpawn v later := by
  induction events generalizing s with
  | nil => exact .nil
  | cons e rest ih =>
      obtain ⟨posts, taken, carried⟩ := mem_sentTo_step (e := e) streaming.cleared
      have endedAfter : ∀ bytes ∈ ((networkStep s e).ctx.outputs.filter
          (·.connectionId = connectionId)).map (·.bytes), Ends F v bytes →
            Ended v (networkStep s e).session := by
        intro bytes now ends
        obtain ⟨p, posted, carries, _⟩ := carried connectionId bytes now
        exact ended_of_ends streaming.sound streaming.settled taken posted
          ((tells_post carries).1 ends)
      refine List.pairwise_append.mpr ⟨?_, ih streaming.next, ?_⟩
      · refine List.pairwise_of_forall_mem_list fun first listed later listed' ends spawn => ?_
        obtain ⟨p, posted, carries, _⟩ := carried connectionId later listed'
        exact not_ended_of_spawns streaming.settled taken posted ((tells_post carries).2 spawn)
          (endedAfter first listed ends)
      · exact fun first listed later listed' ends =>
          sentTo_spawnless connectionId streaming.next (endedAfter first listed ends) later listed'

theorem sentTo_flagged (connectionId : UInt32) {events : List NetworkEvent}
    (streaming : Streaming s events) : ∀ bytes ∈ sentTo connectionId s events,
      Ends F v bytes ∨ Tells F .actorSpawn v bytes → flaggedReliable bytes = true := by
  induction events generalizing s with
  | nil => exact nofun
  | cons e rest ih =>
      obtain ⟨posts, taken, carried⟩ := mem_sentTo_step (e := e) streaming.cleared
      intro bytes sent announces
      rcases List.mem_append.mp sent with now | later
      · obtain ⟨p, posted, carries, flagged⟩ := carried connectionId bytes now
        rw [flagged]
        exact announces_flags taken posted
          (announces.imp (tells_post carries).1 (tells_post carries).2)
      · exact ih streaming.next bytes later announces

/-- In every order of delivery. -/
theorem delivered_ordered (connectionId : UInt32) (v : ActorNetId) {events : List NetworkEvent}
    (streaming : Streaming s events) {got : List (List UInt8)}
    (delivers : Delivers flaggedReliable [] (sentTo connectionId s events) got) :
    got.Pairwise fun first later => Ends F v first → ¬ Tells F .actorSpawn v later := by
  have sent := (sentTo_ordered connectionId v streaming).filter flaggedReliable
  rw [← delivers.filter_kept rfl, List.pairwise_filter] at sent
  have flagged : ∀ bytes ∈ got, Ends F v bytes ∨ Tells F .actorSpawn v bytes →
      flaggedReliable bytes = true := fun bytes received =>
    sentTo_flagged connectionId streaming bytes ((delivers.mem received).resolve_left nofun)
  refine sent.imp_of_mem fun {first later} listed listed' apart ends spawn => ?_
  exact apart (flagged first listed (.inl ends)) (flagged later listed' (.inr spawn)) ends spawn

end Steps

/-! ## The client -/

section Client
variable [WireFloat F] {backend : RemoteProxyBackend F U} {c : ClientState F U}
  {v : ActorNetId} {applied got : List (List UInt8)}

/-- However much of a stream the client has applied: an actor whose death is among it is not shown
alive, and one whose despawn is among it is not shown. -/
def StaysEnded (backend : RemoteProxyBackend F U) (v : ActorNetId) (c : ClientState F U)
    (got : List (List UInt8)) : Prop :=
  ∀ applied, applied <+: got →
    let shown := actorsShown (applyPackets backend applied c).actors v
    ((∃ packet ∈ applied, Tells F .deathEvent v packet) → ∀ view ∈ shown, view.isDead = true) ∧
      ((∃ packet ∈ applied, Tells F .actorDespawn v packet) → shown = none)

/-- No state that comes behind the death or the despawn of its actor finds room for a new record, or
a record to which it gives health behind the death. -/
def NoLateState (backend : RemoteProxyBackend F U) (v : ActorNetId) (c : ClientState F U)
    (got : List (List UInt8)) : Prop :=
  ∀ applied packet, applied ++ [packet] <+: got → (∃ earlier ∈ applied, Ends F v earlier) →
    ∀ msg : MsgActorState F, Carries packet .actorState msg →
      msg.actorNetId = v →
        let before := applyPackets backend applied c
        match actorsShown before.actors v with
        | none => ¬ ActorProxies.HasRoom before.actors
        | some _ => (∃ earlier ∈ applied, Tells F .deathEvent v earlier) →
            lt (lit 0 1) msg.healthNorm = false

/-- The actor is not shown alive once it died, and not shown once it is gone. -/
def AtRest (v : ActorNetId) (c : ClientState F U) (died gone : Prop) : Prop :=
  (died → ∀ view ∈ actorsShown c.actors v, view.isDead = true) ∧
    (gone → actorsShown c.actors v = none)

omit [CFloat F] [WireFloat F] in
theorem AtRest.shown {died gone : Prop} {before after : ClientState F U}
    (rests : AtRest v before died gone)
    (same : actorsShown after.actors v = actorsShown before.actors v) : AtRest v after died gone := by
  rw [AtRest, same]
  exact rests

omit [WireFloat F] in
theorem AtRest.message {died gone : Prop} (rests : AtRest v c died gone)
    (distinct : Slots.Distinct c.actors.slots) {type : MessageType} {body : Body F type}
    (about : aboutActor type body = some v) (noSpawn : died ∨ gone → type ≠ .actorSpawn)
    (noState : died ∨ gone → ∀ same : type = .actorState,
      match actorsShown c.actors v with
      | none => ¬ ActorProxies.HasRoom c.actors
      | some _ => died → lt (lit 0 1) (same ▸ body : Body F .actorState).healthNorm = false) :
    AtRest v (applyMessage backend type body c).2 (died ∨ type = .deathEvent)
      (gone ∨ type = .actorDespawn) := by
  cases type with
  | actorSpawn =>
      have early : ¬ (died ∨ gone) := fun late => noSpawn late rfl
      exact ⟨fun dead => (early (.inl (dead.resolve_right fun is => by cases is))).elim,
        fun left => (early (.inr (left.resolve_right fun is => by cases is))).elim⟩
  | actorState =>
      obtain rfl := Option.some.inj about
      cases known : actorsShown c.actors body.actorNetId with
      | none =>
          rw [known] at noState
          rcases applyActorState_unknown backend known with ⟨_, _, same⟩ | ⟨_, room, _⟩
          · have kept : AtRest body.actorNetId (applyMessage backend .actorState body c).2 died gone :=
              rests.shown (congrArg (actorsShown · _) same)
            exact ⟨fun dead => kept.1 (dead.resolve_right fun is => by cases is),
              fun left => kept.2 (left.resolve_right fun is => by cases is)⟩
          · have early : ¬ (died ∨ gone) := fun late => noState late rfl room
            exact ⟨fun dead => (early (.inl (dead.resolve_right fun is => by cases is))).elim,
              fun left => (early (.inr (left.resolve_right fun is => by cases is))).elim⟩
      | some view =>
          rw [known] at noState
          have shown : actorsShown (applyMessage backend .actorState body c).2.actors
              body.actorNetId = some (view.state body) := by
            rw [applyActorState_known backend known, Function.update_self]
          refine ⟨fun dead after member => ?_, fun left => ?_⟩
          · have d := dead.resolve_right fun is => by cases is
            have unhealthy : lt (lit 0 1) body.healthNorm = false := noState (.inl d) rfl d
            obtain rfl : view.state body = after := Option.some.inj (shown.symm.trans member)
            rw [ActorView.state]
            dsimp only
            rw [unhealthy, if_neg Bool.false_ne_true]
            exact rests.1 d view known
          · have absent := rests.2 (left.resolve_right fun is => by cases is)
            cases known.symm.trans absent
  | actorDespawn =>
      obtain rfl := Option.some.inj about
      have shown := congrFun (applyActorDespawn_shown backend distinct body) body.actorNetId
      rw [Function.update_self] at shown
      exact ⟨fun _ view member => (by cases shown.symm.trans member), fun _ => shown⟩
  | damageResult =>
      obtain rfl := Option.some.inj about
      have shown := congrFun (applyDamageResult_shown (c := c) backend body) body.victimActorNetId
      rw [Function.update_self] at shown
      refine ⟨fun dead after member => ?_, fun left => ?_⟩
      · obtain ⟨view, before, rfl⟩ := Option.map_eq_some_iff.mp (shown.symm.trans member)
        have lay := rests.1 (dead.resolve_right fun is => by cases is) view before
        rw [ActorView.damage]
        dsimp only
        rw [lay, ite_self]
      · rw [shown, rests.2 (left.resolve_right fun is => by cases is)]
        rfl
  | deathEvent =>
      obtain rfl := Option.some.inj about
      have shown := congrFun (applyDeathEvent_shown (c := c) backend body) body.victimActorNetId
      rw [Function.update_self] at shown
      refine ⟨fun _ after member => ?_, fun left => ?_⟩
      · obtain ⟨view, _, rfl⟩ := Option.map_eq_some_iff.mp (shown.symm.trans member)
        rfl
      · rw [shown, rests.2 (left.resolve_right fun is => by cases is)]
        rfl
  | _ => cases about

theorem AtRest.packet {died gone : Prop} {packet : List UInt8} (rests : AtRest v c died gone)
    (distinct : Slots.Distinct c.actors.slots)
    (noSpawn : died ∨ gone → ¬ Tells F .actorSpawn v packet)
    (noState : died ∨ gone → ∀ msg : MsgActorState F, Carries packet .actorState msg →
      msg.actorNetId = v → match actorsShown c.actors v with
        | none => ¬ ActorProxies.HasRoom c.actors
        | some _ => died → lt (lit 0 1) msg.healthNorm = false) :
    AtRest v (pluginApplyPacket backend packet c).2 (died ∨ Tells F .deathEvent v packet)
      (gone ∨ Tells F .actorDespawn v packet) := by
  rcases pluginApplyPacket_cases backend packet c with ⟨type, body, carries, eq⟩ | ⟨silent, eq⟩
  · have told : ∀ {type'}, Tells F type' v packet →
        type = type' ∧ aboutActor type body = some v := by
      rintro type' ⟨body', carries', about⟩
      obtain rfl := carries.type_unique carries'
      obtain rfl := carries.unique carries'
      exact ⟨rfl, about⟩
    rw [eq]
    by_cases about : aboutActor type body = some v
    · have one : AtRest v (applyMessage backend type body c).2 (died ∨ type = .deathEvent)
          (gone ∨ type = .actorDespawn) := by
        refine rests.message distinct about (fun late spawn => ?_) fun late same => ?_
        · subst spawn
          exact noSpawn late ⟨body, carries, about⟩
        · subst same
          exact noState late body carries (Option.some.inj about)
      exact ⟨fun dead => one.1 (dead.imp_right fun death => (told death).1),
        fun left => one.2 (left.imp_right fun despawn => (told despawn).1)⟩
    · have kept := rests.shown (applyMessage_shown_other backend distinct about)
      exact ⟨fun dead => kept.1 (dead.resolve_right fun death => about (told death).2),
        fun left => kept.2 (left.resolve_right fun despawn => about (told despawn).2)⟩
  · have untold : ∀ {type}, ¬ Tells F type v packet := fun ⟨body, carries, _⟩ =>
      silent _ body carries
    rw [eq]
    exact ⟨fun dead => rests.1 (dead.resolve_right untold),
      fun left => rests.2 (left.resolve_right untold)⟩

/-- A stream in which no spawn comes behind the end of the actor leaves it ended exactly if no state
comes late. -/
theorem staysEnded_iff_of_ordered (distinct : Slots.Distinct c.actors.slots)
    (ordered_ : got.Pairwise fun first later => Ends F v first → ¬ Tells F .actorSpawn v later) :
    StaysEnded backend v c got ↔ NoLateState backend v c got := by
  have reached : ∀ packets, Slots.Distinct (applyPackets backend packets c).actors.slots :=
    fun packets => applyPackets_keep (P := fun c => Slots.Distinct c.actors.slots)
      (fun type body c before => applyMessage_distinct backend before type body) packets distinct
  constructor
  · intro stays applied packet isPrefix late msg carries about before
    obtain ⟨died, gone⟩ := stays _ isPrefix
    have applies : pluginApplyPacket backend packet before = applyMessage backend .actorState msg before :=
      pluginApplyPacket_carries carries backend before
    rw [applyPackets_snoc, applies] at died gone
    cases known : actorsShown before.actors v with
    | none =>
        intro room
        rcases applyActorState_unknown backend (about ▸ known) with ⟨_, full, _⟩ | ⟨_, _, shown⟩
        · exact full room
        · have revived := congrFun shown v
          rw [about, Function.update_self] at revived
          obtain ⟨earlier, listed, death | despawn⟩ := late
          · have dead := died ⟨earlier, List.mem_append_left _ listed, death⟩ _ revived
            simp only [ActorView.state, ActorView.spawned, ite_self] at dead
            cases dead
          · cases revived.symm.trans (gone ⟨earlier, List.mem_append_left _ listed, despawn⟩)
    | some view =>
        rintro ⟨earlier, listed, death⟩
        have shown := congrFun (applyActorState_known backend (about ▸ known)) v
        rw [about, Function.update_self] at shown
        have dead := died ⟨earlier, List.mem_append_left _ listed, death⟩ _ shown
        cases healthy : lt (lit 0 1) msg.healthNorm with
        | false => rfl
        | true =>
            simp only [ActorView.state, healthy, if_true] at dead
            cases dead
  · intro inTime applied
    suffices rests : applied <+: got → AtRest v (applyPackets backend applied c)
        (∃ packet ∈ applied, Tells F .deathEvent v packet)
        (∃ packet ∈ applied, Tells F .actorDespawn v packet) from rests
    induction applied using List.reverseRecOn with
    | nil =>
        intro _
        constructor
        · rintro ⟨_, member, _⟩
          cases member
        · rintro ⟨_, member, _⟩
          cases member
    | append_singleton applied packet ih =>
        intro isPrefix
        have rests := ih ((List.prefix_append applied [packet]).trans isPrefix)
        have orderedHere := (List.pairwise_append.mp (ordered_.sublist isPrefix.sublist)).2.2
        have next := @AtRest.packet _ _ _ _ backend _ _ _ _ packet rests (reached applied) ?_ ?_
        · rw [applyPackets_snoc]
          simp only [List.mem_append, List.mem_singleton, or_and_right, exists_or, exists_eq_left]
          exact next
        · rintro (⟨earlier, listed, death⟩ | ⟨earlier, listed, despawn⟩)
          · exact orderedHere earlier listed packet List.mem_cons_self (.inl death)
          · exact orderedHere earlier listed packet List.mem_cons_self (.inr despawn)
        · intro late msg carries about
          refine inTime applied packet isPrefix ?_ msg carries about
          rcases late with ⟨earlier, listed, death⟩ | ⟨earlier, listed, despawn⟩
          · exact ⟨earlier, listed, .inl death⟩
          · exact ⟨earlier, listed, .inr despawn⟩

end Client

/-! ## Runs -/

/-- Of a service that ticks behind what it handles, in every order in which a client may be delivered
what it is sent: the client leaves an actor ended exactly if no state of it comes late. -/
theorem staysEnded_iff [WireFloat F] [LawfulWireFloat F] (backend : RemoteProxyBackend F U)
    (connectionId : UInt32) (sessionId : SessionId) (rules : UInt32) (tickRate : UInt16)
    (whitelist : List UInt32) (setup : List (ServiceEvent F)) (events : List NetworkEvent)
    (packets : List (List UInt8)) (localPlayerId : PlayerId) (user : U) (v : ActorNetId)
    (got : List (List UInt8)) :
    let placed := tlClearOutputs
      (run serviceStep (freshService sessionId rules tickRate whitelist) setup)
    let client := applyPackets backend packets (freshClient localPlayerId user)
    (∀ e ∈ setup, e.offline = true) →
    Along serviceStep (fun s e => s.nextActorId ≤ (serviceStep s e).nextActorId)
      (freshService sessionId rules tickRate whitelist) setup →
    Ticked placed events →
    Delivers flaggedReliable [] (sentTo connectionId placed events) got →
    (StaysEnded backend v client got ↔ NoLateState backend v client got) := by
  intro placed client offline counted ticked delivers
  have staged : Staged placed :=
    (staged_of_setup sessionId rules tickRate whitelist offline counted).of_eq rfl rfl
  have streaming : Streaming placed events := ⟨rfl, staged.sound, staged.settled events, ticked⟩
  have distinct : Slots.Distinct client.actors.slots :=
    applyPackets_keep (P := fun c => Slots.Distinct c.actors.slots)
      (fun type body c before => applyMessage_distinct backend before type body) packets
      (.of_unused fun a member => by cases member)
  exact staysEnded_iff_of_ordered distinct (delivered_ordered connectionId v streaming delivers)

def hostilePlace : Vec3f Binary32 := ⟨lit 10 1, lit 0 1, lit 0 1⟩

def hostileService : ServiceState Binary32 :=
  tlClearOutputs (run serviceStep (freshService 1 15 20 [7]) [.spawnHostile 7 hostilePlace])

/-- A player joins beside the hostile and shoots it dead. -/
def shootOut : List NetworkEvent :=
  let greeting : Body Binary32 .hello := (⟨0, 0⟩, [0x41], [0x41])
  .envelope ⟨fun _ => none⟩ (envelopeOf 100 .hello greeting) :: .tick :: fireVolley 4

/-- All that the player is sent comes in order. -/
theorem staysEnded_iff_shootOut :
    let got := sentTo 100 hostileService shootOut
    let client : ClientState Binary32 Unit := freshClient 1 ()
    StaysEnded defaultBackend 2000 client got ↔ NoLateState defaultBackend 2000 client got := by
  intro got client
  exact staysEnded_iff defaultBackend 100 1 15 20 [7] [.spawnHostile 7 hostilePlace] shootOut [] 1 ()
    2000 got (by decide) (by decide +kernel) (by decide +kernel) (.refl got)

/-- The state behind the spawn comes when all else has come, and the dead hostile is shown again. -/
theorem staysEnded_late :
    let sent := sentTo 100 hostileService shootOut
    let got := sent.eraseIdx 6 ++ sent[6]?.toList
    let client : ClientState Binary32 Unit := freshClient 1 ()
    Ticked hostileService shootOut ∧ Delivers flaggedReliable [] sent got ∧
      ¬ StaysEnded defaultBackend 2000 client got := by
  intro sent got client
  have free : sent[6]?.map flaggedReliable = some false := by decide +kernel
  obtain ⟨state, at_, unreliable⟩ := Option.map_eq_some_iff.mp free
  refine ⟨by decide +kernel, ?_, fun stays => ?_⟩
  · have late := Delivers.last at_ unreliable
    rwa [← Option.toList_some, ← at_] at late
  · have despawned : 2000 ∈ (got.filterMap (messageOf? (F := Binary32) .actorDespawn)).map
        fun msg => msg.actorNetId := by decide +kernel
    have shown : (actorsShown (applyPackets defaultBackend got client).actors 2000).isSome = true := by
      decide +kernel
    obtain ⟨msg, listed, about⟩ := List.mem_map.mp despawned
    obtain ⟨packet, received, found⟩ := List.mem_filterMap.mp listed
    have gone := (stays got List.prefix_rfl).2
      ⟨packet, received, msg, messageOf?_eq_some.mp found, congrArg some about⟩
    rw [gone] at shown
    cases shown

end F4MP.System

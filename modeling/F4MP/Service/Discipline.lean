import F4MP.Service.Casualties
import F4MP.Service.Roster

/-!
# Services that tick

The loop of the service ticks behind every envelope that it handles, and so an envelope never finds a
dead actor. What the actors of such a service have in common is kept here.
-/

namespace F4MP.Service
open SoftFloat CFloat Protocol Transition

variable {F : Type} [CFloat F]

/-! ## Wounds -/

/-- The health of an actor that was hit so many times. -/
def healthAfterHits (hits : Nat) : F := healthAfterHit^[hits] (lit 1 1)

/-- A hit that kills leaves no health. -/
def KillsAtZero (F : Type) [CFloat F] : Prop :=
  ∀ hits, le (healthAfterHits hits : F) (lit 0 1) = true → (healthAfterHits hits : F) = lit 0 1

theorem binary32_killsAtZero : KillsAtZero Binary32 := by
  have spent : ∀ hits, (healthAfterHits (hits + 4) : Binary32) = lit 0 1 := by
    intro hits
    induction hits with
    | zero => decide +kernel
    | succ hits ih =>
        have next : (healthAfterHits (hits + 1 + 4) : Binary32) =
            healthAfterHit (healthAfterHits (hits + 4)) := Function.iterate_succ_apply' _ _ _
        rw [next, ih]
        decide +kernel
  have alive : ∀ hits < 4, le (healthAfterHits hits : Binary32) (lit 0 1) = false := by
    decide +kernel
  intro hits killed
  have enough : 4 ≤ hits := by
    by_contra few
    rw [alive hits (Nat.lt_of_not_le few)] at killed
    cases killed
  rw [← Nat.sub_add_cancel enough]
  exact spent (hits - 4)

omit [CFloat F] in
theorem or_and_absorb (flags mask : UInt16) : (flags ||| mask) &&& mask = mask := by
  refine UInt16.toBitVec_inj.1 (BitVec.eq_of_getLsbD_eq fun i _ => ?_)
  simp only [UInt16.toBitVec_and, UInt16.toBitVec_or, BitVec.getLsbD_and, BitVec.getLsbD_or]
  cases mask.toBitVec.getLsbD i <;> simp

theorem ActorRuntimeState.hit_dead (a : ActorRuntimeState F)
    (lethal : le a.hit.replicatedState.healthNorm (lit 0 1) = true) : a.hit.dead = true := by
  have written : a.hit.replicatedState.actorFlags =
      a.replicatedState.actorFlags ||| ActorStateFlags.dead := if_pos lethal
  rw [ActorRuntimeState.dead, written, or_and_absorb]
  decide

/-- The actors in use have their own ids, none is marked, and only hits took their health. -/
structure ActorsSound (s : SessionState F) : Prop where
  fresh : Fresh s
  numbered : ∀ a ∈ s.actors.slots, a.inUse = true → a.actorNetId ≠ 0
  stamped : ∀ a ∈ s.actors.slots, a.inUse = true → a.replicatedState.actorNetId = a.actorNetId
  wounded : ∀ a ∈ s.actors.slots, a.inUse = true →
    ∃ hits, a.replicatedState.healthNorm = healthAfterHits hits

theorem ActorsSound.of_kept {s after : SessionState F} (sound : ActorsSound s) (fresh : Fresh after)
    (kept : ∀ a ∈ after.actors.slots, a.inUse = true →
      ∃ b ∈ s.actors.slots, b.inUse = true ∧ (a = b ∨ a = b.hit)) : ActorsSound after := by
  refine ⟨fresh, ?_, ?_, ?_⟩
  all_goals
    intro a member inUse
    obtain ⟨b, listed, live, rfl | rfl⟩ := kept a member inUse
  · exact sound.numbered a listed live
  · exact sound.numbered b listed live
  · exact sound.stamped a listed live
  · exact sound.stamped b listed live
  · exact sound.wounded a listed live
  · obtain ⟨hits, health⟩ := sound.wounded b listed live
    refine ⟨hits + 1, ?_⟩
    rw [healthAfterHits, Function.iterate_succ_apply', ← healthAfterHits, ← health]
    rfl

/-! ## Steps -/

section Steps
variable [WireFloat F]

/-- A step of the network, behind which the queue is sent. -/
def clearedStep (s : ServiceState F) (e : NetworkEvent) : ServiceState F :=
  tlClearOutputs (networkStep s e)

def Handled (s : ServiceState F) : NetworkEvent → Prop
  | .envelope store env => (tlHandleEnvelope store env s).1 = true
  | .tick => False

def NetworkEvent.isTick : NetworkEvent → Bool
  | .envelope .. => false
  | .tick => true

/-- A tick follows every envelope that is handled. -/
def Ticked : ServiceState F → List NetworkEvent → Prop
  | _, [] => True
  | s, e :: rest => (Handled s e → ∀ next ∈ rest.head?, next.isTick = true) ∧
      Ticked (clearedStep s e) rest

instance Ticked.decidable : ∀ (s : ServiceState F) (events : List NetworkEvent),
    Decidable (Ticked s events)
  | _, [] => inferInstanceAs (Decidable True)
  | s, e :: rest =>
      have := Ticked.decidable (clearedStep s e) rest
      have : Decidable (Handled s e) := by
        cases e with
        | envelope store env => exact inferInstanceAs (Decidable (_ = true))
        | tick => exact inferInstanceAs (Decidable False)
      inferInstanceAs (Decidable (_ ∧ _))

theorem ticked_append {s : ServiceState F} {events more : List NetworkEvent}
    (ticked : Ticked s (events ++ more)) :
    Ticked s events ∧ Ticked (run clearedStep s events) more := by
  induction events generalizing s with
  | nil => exact ⟨trivial, ticked⟩
  | cons e rest ih =>
      obtain ⟨now, later⟩ := ticked
      obtain ⟨front, back⟩ := ih later
      refine ⟨⟨fun handled next head => now handled next ?_, front⟩, back⟩
      cases rest with
      | nil => cases head
      | cons _ _ => exact head

/-- No actor is dead, or at most one is and the next event is a tick. -/
def Settled (s : SessionState F) (events : List NetworkEvent) : Prop :=
  Standing s ∨ s.actors.slots.countP (·.fallen) ≤ 1 ∧ ∀ next ∈ events.head?, next.isTick = true

omit [CFloat F] [WireFloat F] in
theorem Settled.few {s : SessionState F} {events : List NetworkEvent}
    (settled : Settled s events) : s.actors.slots.countP (·.fallen) ≤ 1 := by
  rcases settled with standing | ⟨few, _⟩
  · have none : s.actors.slots.countP (·.fallen) = 0 :=
      List.countP_eq_zero.mpr fun a member => by simp [standing.alive a member]
    omega
  · exact few

omit [WireFloat F] in
theorem ActorsSound.tick {s : ServiceState F} (sound : ActorsSound s.session)
    (few : s.session.actors.slots.countP (·.fallen) ≤ 1) :
    ActorsSound (tickSession s) ∧ Standing (tickSession s) := by
  have enough : s.session.actors.slots.countP (·.fallen) ≤ 64 := by omega
  have standing := sound.fresh.tick enough
  refine ⟨sound.of_kept standing.fresh fun a member inUse => ?_, standing⟩
  rw [tickSession_actors (sound.fresh.countable enough)] at member
  obtain ⟨b, listed, rfl⟩ := List.mem_map.mp member
  have same := (ActorRuntimeState.bury_inUse inUse).2
  rw [same] at inUse ⊢
  exact ⟨b, listed, inUse, .inl rfl⟩

theorem ActorsSound.envelope {store : ProfileStore} {env : TransportEnvelope}
    {s after : ServiceState F} {posts : List (Post F)} {ok : Bool}
    (outcome : Outcome store env s posts (ok, after)) (sound : ActorsSound s.session) :
    ActorsSound after.session := by
  refine sound.of_kept (outcome.struck.fresh sound.fresh) fun a member inUse => ?_
  rcases outcome.struck.kept member with old | ⟨b, old, rfl⟩
  · exact ⟨a, old, inUse, .inl rfl⟩
  · exact ⟨b, old, inUse, .inr rfl⟩

theorem clearedStep_settled [LawfulWireFloat F] {s : ServiceState F} {e : NetworkEvent}
    {rest : List NetworkEvent} (sound : ActorsSound s.session)
    (settled : Settled s.session (e :: rest))
    (ticks : Handled s e → ∀ next ∈ rest.head?, next.isTick = true) :
    ActorsSound (clearedStep s e).session ∧ Settled (clearedStep s e).session rest := by
  cases e with
  | tick =>
      obtain ⟨after, standing⟩ := sound.tick settled.few
      have session : (clearedStep s .tick).session = tickSession s := by
        rw [clearedStep, networkStep, tlTick_posts]
        rfl
      exact session ▸ ⟨after, .inl standing⟩
  | envelope store env =>
      have standing : Standing s.session := settled.resolve_right fun dead => by
        cases dead.2 _ rfl
      obtain ⟨sequence, posts, outcome⟩ := tlHandleEnvelope_outcome store env s
      have after := ActorsSound.envelope (s := received s sequence) outcome sound
      refine ⟨after, ?_⟩
      cases handled : (tlHandleEnvelope store env s).1 with
      | true => exact .inr ⟨outcome.struck.few standing.alive, ticks handled⟩
      | false =>
          refine .inl ⟨after.fresh, ?_⟩
          have unhandled : Outcome store env (received s sequence) posts
              (false, (tlHandleEnvelope store env s).2) := handled ▸ outcome
          have same : (clearedStep s (.envelope store env)).session.actors = s.session.actors :=
            unhandled.unhandled_actors
          rw [same]
          exact standing.alive

theorem clearedStep_hello [LawfulWireFloat F] {s : ServiceState F} {store : ProfileStore}
    {env : TransportEnvelope} {names : Text × Text} (hello : helloOf? env.bytes = some names) :
    (clearedStep s (.envelope store env)).session.actors = s.session.actors := by
  cases accepted : (tlHandleEnvelope store env s).1 with
  | false =>
      obtain ⟨sequence, posts, outcome⟩ := tlHandleEnvelope_outcome store env s
      have unhandled : Outcome store env (received s sequence) posts
          (false, (tlHandleEnvelope store env s).2) := accepted ▸ outcome
      exact unhandled.unhandled_actors
  | true =>
      obtain ⟨sequence, id, taken, slot, takes, _, seated⟩ :=
        tlHandleEnvelope_accepted hello accepted
      obtain ⟨players, connectedCount, registry, frame⟩ := takeSeat_frame takes
      rw [clearedStep, networkStep, seated, frame]
      rfl

theorem run_settled [LawfulWireFloat F] {s : ServiceState F} {events more : List NetworkEvent}
    (sound : ActorsSound s.session) (settled : Settled s.session (events ++ more))
    (ticked : Ticked s (events ++ more)) : ActorsSound (run clearedStep s events).session ∧
      Settled (run clearedStep s events).session more := by
  induction events generalizing s with
  | nil => exact ⟨sound, settled⟩
  | cons e rest ih =>
      obtain ⟨ticks, later⟩ := ticked
      obtain ⟨next, calm⟩ := clearedStep_settled sound settled ticks
      exact ih next calm later

/-! ## Before the network -/

omit [CFloat F] [WireFloat F] in
theorem counter_grows {n : UInt32} (counted : n ≤ n + 1) : n < n + 1 := by
  refine UInt32.lt_of_le_of_ne counted fun same => ?_
  have wrapped := congrArg UInt32.toNat same
  have bound := n.toNat_lt
  rw [UInt32.toNat_add, UInt32.toNat_one] at wrapped
  omega

def ServiceEvent.offline : ServiceEvent F → Bool
  | .envelope .. | .tick => false
  | _ => true

/-- The actors are as they were placed, under ids that the counter gave out. -/
structure Staged (s : ServiceState F) : Prop where
  sound : ActorsSound s.session
  alive : ∀ a ∈ s.session.actors.slots, a.fallen = false
  below : ∀ a ∈ s.session.actors.slots, a.inUse = true → a.actorNetId < s.nextActorId
  started : 0 < s.nextActorId

omit [WireFloat F] in
theorem Staged.of_eq {s after : ServiceState F} (staged : Staged s)
    (actors : after.session.actors = s.session.actors) (next : after.nextActorId = s.nextActorId) :
    Staged after := by
  obtain ⟨⟨⟨distinct, unmarked⟩, numbered, stamped, wounded⟩, alive, below, started⟩ := staged
  rw [← actors] at distinct unmarked numbered stamped wounded alive below
  rw [← next] at below started
  exact ⟨⟨⟨distinct, unmarked⟩, numbered, stamped, wounded⟩, alive, below, started⟩

omit [WireFloat F] in
theorem acSpawnHostileActor_claims {s session : SessionState F} {nextActorId : ActorNetId}
    {baseFormId : UInt32} {position : Vec3f F} {rotation : Rot3f F}
    (spawned : acSpawnHostileActor s nextActorId baseFormId position rotation = some session) :
    ∃ (hostile : ActorRuntimeState F) (actors : Slots.Table maxActorsPerSession _),
      session = { s with actors } ∧ hostile.actorNetId = nextActorId ∧
      hostile.replicatedState.actorNetId = hostile.actorNetId ∧ hostile.inUse = true ∧
      hostile.pendingDespawn = false ∧ hostile.dead = false ∧
      hostile.replicatedState.healthNorm = lit 1 1 ∧
      Slots.claim maxActorsPerSession Slots.free hostile s.actors.slots = some actors.slots := by
  simp only [acSpawnHostileActor, wsAllocActor] at spawned
  obtain ⟨actors, claimed, rfl⟩ := Option.map_eq_some_iff.mp spawned
  refine ⟨_, actors, rfl, rfl, rfl, rfl, rfl, ?_, rfl, Slots.Table.claim_slots claimed⟩
  simp only [ActorRuntimeState.dead]
  decide

omit [WireFloat F] in
theorem Staged.spawn {s : ServiceState F} (staged : Staged s) {baseFormId : UInt32}
    {position : Vec3f F} {session : SessionState F}
    (spawned : acSpawnHostileActor s.session s.nextActorId baseFormId position zeroRot =
      some session) (counted : s.nextActorId < s.nextActorId + 1) :
    Staged { s with session, nextActorId := s.nextActorId + 1 } := by
  obtain ⟨hostile, actors, rfl, id, stamp, live, unmarked, standing, whole, slots⟩ :=
    acSpawnHostileActor_claims spawned
  have alive : hostile.fallen = false := by rw [ActorRuntimeState.fallen, standing, Bool.and_false]
  have unused : Slots.lookup (Slots.Slot.key hostile) s.session.actors.slots = none := by
    refine Slots.lookup_eq_none.mpr fun a listed inUse same => ?_
    have below := staged.below a listed inUse
    rw [show a.actorNetId = s.nextActorId from same.trans id] at below
    exact UInt32.lt_irrefl _ below
  have placed : ∀ a ∈ actors.slots, a ∈ s.session.actors.slots ∨ a = hostile :=
    fun a member => Slots.mem_claim slots member
  have sound := staged.sound
  refine ⟨⟨⟨sound.fresh.distinct.claim slots unused, ?_⟩, ?_, ?_, ?_⟩, ?_, ?_, ?_⟩
  · intro a member inUse
    rcases placed a member with old | rfl
    · exact sound.fresh.unmarked a old inUse
    · exact unmarked
  · intro a member inUse
    rcases placed a member with old | rfl
    · exact sound.numbered a old inUse
    · exact id ▸ (UInt32.ne_of_lt staged.started).symm
  · intro a member inUse
    rcases placed a member with old | rfl
    · exact sound.stamped a old inUse
    · exact stamp
  · intro a member inUse
    rcases placed a member with old | rfl
    · exact sound.wounded a old inUse
    · exact ⟨0, whole⟩
  · intro a member
    rcases placed a member with old | rfl
    · exact staged.alive a old
    · exact alive
  · intro a member inUse
    rcases placed a member with old | rfl
    · exact UInt32.lt_trans (staged.below a old inUse) counted
    · exact id ▸ counted
  · exact UInt32.lt_trans staged.started counted

theorem Staged.step {s : ServiceState F} (staged : Staged s) {e : ServiceEvent F}
    (offline : e.offline = true) (counted : s.nextActorId ≤ (serviceStep s e).nextActorId) :
    Staged (serviceStep s e) := by
  cases e with
  | envelope => cases offline
  | tick => cases offline
  | clearOutputs => exact staged.of_eq rfl rfl
  | popDialogueSelect =>
      obtain ⟨_, _, _, frame⟩ := popDialogueSelect_frame s
      rw [frame]
      exact staged.of_eq rfl rfl
  | setPlayerTimeoutTicks => exact staged.of_eq rfl rfl
  | spawnHostile baseFormId position =>
      have above := counter_grows counted
      cases spawned : acSpawnHostileActor s.session s.nextActorId baseFormId position zeroRot with
      | some session =>
          simp only [serviceStep, spawned, Option.getD_some]
          exact staged.spawn spawned above
      | none =>
          simp only [serviceStep, spawned, Option.getD_none]
          exact ⟨staged.sound, staged.alive, fun a member inUse =>
            UInt32.lt_trans (staged.below a member inUse) above, UInt32.lt_trans staged.started above⟩
  | allocSettlement settlementId center radius budget =>
      obtain ⟨_, frame⟩ := allocSettlement_frame s settlementId center radius budget
      rw [frame]
      exact staged.of_eq rfl rfl
  | rebuildBubble => exact staged.of_eq rfl rfl
  | setTrace => exact staged.of_eq rfl rfl
  | host event =>
      obtain ⟨dialogue, quest, ctx, frame⟩ := hostStep_frame s event
      rw [serviceStep, frame]
      exact staged.of_eq rfl rfl

/-- The placing of a service that nobody has joined yet. -/
theorem staged_of_setup (sessionId : SessionId) (rules : UInt32) (tickRate : UInt16)
    (whitelist : List UInt32) {setup : List (ServiceEvent F)}
    (offline : ∀ e ∈ setup, e.offline = true)
    (counted : Along serviceStep (fun s e => s.nextActorId ≤ (serviceStep s e).nextActorId)
      (freshService sessionId rules tickRate whitelist) setup) :
    Staged (run serviceStep (freshService sessionId rules tickRate whitelist) setup) := by
  have fresh : Staged (freshService sessionId rules tickRate whitelist : ServiceState F) :=
    ⟨⟨⟨.nil, nofun⟩, nofun, nofun, nofun⟩, nofun, nofun, (by decide : (0 : UInt32) < 2000)⟩
  generalize (freshService sessionId rules tickRate whitelist : ServiceState F) = s at *
  induction setup generalizing s with
  | nil => exact fresh
  | cons e rest ih =>
      rw [List.forall_mem_cons] at offline
      exact ih offline.2 _ counted.2 (fresh.step offline.1 counted.1)

omit [WireFloat F] in
theorem Staged.settled {s : ServiceState F} (staged : Staged s) (events : List NetworkEvent) :
    Settled s.session events := .inl ⟨staged.sound.fresh, staged.alive⟩

end Steps

end F4MP.Service

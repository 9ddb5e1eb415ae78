import F4MP.Library.Serial
import F4MP.Service.Discipline

/-!
# Actor and object ids

Both counters give out an id once. As long as they do not wrap around, an id stands for one actor, or
for one object, in the whole life of a session.
-/

namespace F4MP.Service
open SoftFloat CFloat Protocol Transition
open Slots (Issues)

variable {F : Type}

/-! ## Steps -/

/-- What an actor is, whatever happens to it. -/
def ActorRuntimeState.identity (a : ActorRuntimeState F) : UInt32 × UInt8 × ActorNetId :=
  (a.baseFormId, a.actorKind, a.replicatedState.actorNetId)

/-- What an object is, wherever it is moved. -/
def ObjectRuntimeState.identity (o : ObjectRuntimeState F) : UInt32 × UInt32 × PlayerId :=
  (o.formId, o.settlementId, o.ownerPlayerId)

abbrev IssuesActors (next next' : ActorNetId) (slots after : List (ActorRuntimeState F)) : Prop :=
  Slots.Issues UInt32.toNat ActorRuntimeState.identity next.toNat next'.toNat slots after

abbrev IssuesObjects (next next' : ObjectNetId) (slots after : List (ObjectRuntimeState F)) : Prop :=
  Slots.Issues UInt32.toNat ObjectRuntimeState.identity next.toNat next'.toNat slots after

section Steps
variable [CFloat F] {n : UInt32}

theorem acTickSlot_issues (s : SessionState F) (i : Nat) :
    IssuesActors n n s.actors.slots (acTickSlot s i).actors.slots := by
  rw [acTickSlot]
  split
  · exact Issues.refl le_rfl
  · split
    · split
      · exact Issues.modifyFirst le_rfl fun _ _ live => by cases live
      · exact Issues.modify le_rfl fun _ live => ⟨live, rfl, rfl⟩
    · exact Issues.refl le_rfl

theorem tickSession_issues (s : ServiceState F) :
    IssuesActors n n s.session.actors.slots (tickSession s).actors.slots := by
  have same : (timedOutSession s).actors = s.session.actors := by
    rw [timedOutSession, smRemovePlayers_frame]
  have marked : IssuesActors n n s.session.actors.slots (markedSession s).actors.slots := by
    rw [markedSession, acTick, ← same]
    exact Issues.foldl (fun s : SessionState F => s.actors.slots) acTickSlot_issues _ _
  exact marked.trans (Issues.foldl (fun s : SessionState F => s.actors.slots)
    (fun _ _ => Issues.modifyFirst le_rfl fun _ _ live => by cases live) _ _)

variable [WireFloat F] {store : ProfileStore} {env : TransportEnvelope} {s : ServiceState F}
  {posts : List (Post F)} {result : Bool × ServiceState F}

theorem Outcome.issuesActors (outcome : Outcome store env s posts result) :
    result.2.nextActorId = s.nextActorId ∧
      IssuesActors n n s.session.actors.slots result.2.session.actors.slots := by
  obtain ⟨ok, after⟩ := result
  constructor
  · cases outcome with
    | seated _ takes =>
        obtain ⟨_, _, _, rfl⟩ := takeSeat_frame takes
        rfl
    | _ => rfl
  · have struck := outcome.struck
    dsimp only
    generalize after.session.actors.slots = slots at struck
    cases struck with
    | missed => exact Issues.refl le_rfl
    | hit => exact Issues.modify le_rfl fun _ live => ⟨live, rfl, rfl⟩

theorem Outcome.issuesObjects (outcome : Outcome store env s posts result)
    (counted : s.nextObjectId ≤ result.2.nextObjectId) :
    IssuesObjects s.nextObjectId result.2.nextObjectId s.session.objects.slots
      result.2.session.objects.slots := by
  have counted : s.nextObjectId.toNat ≤ result.2.nextObjectId.toNat :=
    UInt32.le_iff_toNat_le.mp counted
  cases outcome with
  | seated _ takes =>
      obtain ⟨_, _, _, rfl⟩ := takeSeat_frame takes
      exact Issues.refl le_rfl
  | built _ _ claimed placed =>
      subst placed
      exact Issues.claim (Slots.Table.claim_slots claimed) rfl
        (UInt32.lt_iff_toNat_lt.mp (counter_grows (UInt32.le_iff_toNat_le.mpr counted)))
  | moved _ changed =>
      subst changed
      exact Issues.modifyFirst counted fun _ _ live => ⟨live, rfl, rfl⟩
  | scrapped _ removed =>
      subst removed
      exact Issues.modifyFirst counted fun _ _ live => by cases live
  | hit _ _ _ _ _ shot =>
      subst shot
      exact Issues.refl counted
  | selected applied =>
      obtain ⟨_, rfl⟩ := dspApplySelection_frame applied
      exact Issues.refl counted
  | _ => exact Issues.refl counted

end Steps

section Events
variable [CFloat F] [WireFloat F] [LawfulWireFloat F] {s : ServiceState F} {e : ServiceEvent F}

/-- Neither counter wraps around. -/
def NotWrapped (s : ServiceState F) (e : ServiceEvent F) : Prop :=
  s.nextActorId ≤ (serviceStep s e).nextActorId ∧ s.nextObjectId ≤ (serviceStep s e).nextObjectId

instance (s : ServiceState F) (e : ServiceEvent F) : Decidable (NotWrapped s e) :=
  inferInstanceAs (Decidable (_ ∧ _))

theorem serviceStep_actors (s : ServiceState F) (e : ServiceEvent F) (counts : NotWrapped s e) :
    IssuesActors s.nextActorId (serviceStep s e).nextActorId s.session.actors.slots
      (serviceStep s e).session.actors.slots := by
  have counted : s.nextActorId.toNat ≤ (serviceStep s e).nextActorId.toNat :=
    UInt32.le_iff_toNat_le.mp counts.1
  cases e with
  | envelope store env =>
      obtain ⟨sequence, posts, outcome⟩ := tlHandleEnvelope_outcome store env s
      obtain ⟨next, issues⟩ := Outcome.issuesActors (n := s.nextActorId) outcome
      rw [serviceStep, next]
      exact issues
  | tick =>
      rw [serviceStep, tlTick_posts]
      exact tickSession_issues s
  | spawnHostile baseFormId position =>
      cases spawned : acSpawnHostileActor s.session s.nextActorId baseFormId position zeroRot with
      | some session =>
          obtain ⟨hostile, actors, rfl, id, _, _, _, _, _, slots⟩ := acSpawnHostileActor_claims spawned
          simp only [serviceStep, spawned, Option.getD_some]
          exact Issues.claim slots (congrArg UInt32.toNat id)
            (UInt32.lt_iff_toNat_lt.mp (counter_grows counts.1))
      | none =>
          simp only [serviceStep, spawned, Option.getD_none]
          exact Issues.refl counted
  | popDialogueSelect =>
      obtain ⟨_, _, _, frame⟩ := popDialogueSelect_frame s
      rw [frame]
      exact Issues.refl le_rfl
  | allocSettlement settlementId center radius budget =>
      obtain ⟨_, frame⟩ := allocSettlement_frame s settlementId center radius budget
      rw [frame]
      exact Issues.refl le_rfl
  | host event =>
      obtain ⟨_, _, _, frame⟩ := hostStep_frame s event
      rw [serviceStep, frame]
      exact Issues.refl le_rfl
  | _ => exact Issues.refl le_rfl

theorem serviceStep_objects (s : ServiceState F) (e : ServiceEvent F) (counts : NotWrapped s e) :
    IssuesObjects s.nextObjectId (serviceStep s e).nextObjectId s.session.objects.slots
      (serviceStep s e).session.objects.slots := by
  cases e with
  | envelope store env =>
      obtain ⟨sequence, posts, outcome⟩ := tlHandleEnvelope_outcome store env s
      exact Outcome.issuesObjects (s := received s sequence) outcome counts.2
  | tick =>
      rw [serviceStep, tlTick_posts, tickSession_frame]
      exact Issues.refl le_rfl
  | spawnHostile baseFormId position =>
      obtain ⟨_, frame⟩ := spawnHostile_frame s baseFormId position
      rw [frame]
      exact Issues.refl le_rfl
  | popDialogueSelect =>
      obtain ⟨_, _, _, frame⟩ := popDialogueSelect_frame s
      rw [frame]
      exact Issues.refl le_rfl
  | allocSettlement settlementId center radius budget =>
      obtain ⟨_, frame⟩ := allocSettlement_frame s settlementId center radius budget
      rw [frame]
      exact Issues.refl le_rfl
  | host event =>
      obtain ⟨_, _, _, frame⟩ := hostStep_frame s event
      rw [serviceStep, frame]
      exact Issues.refl le_rfl
  | _ => exact Issues.refl le_rfl

/-- The state of an actor carries the id of its slot. -/
def Stamped (s : SessionState F) : Prop :=
  ∀ a ∈ s.actors.slots, a.inUse = true → a.replicatedState.actorNetId = a.actorNetId

theorem serviceStep_stamped (stamped : Stamped s.session) (counts : NotWrapped s e) :
    Stamped (serviceStep s e).session := by
  have same : (serviceStep s e).nextActorId = s.nextActorId → Stamped (serviceStep s e).session := by
    intro next a listed inUse
    have issues := serviceStep_actors s e counts
    rw [next] at issues
    rcases issues.origin a listed inUse with ⟨b, old, was, key, mark⟩ | ⟨_, grew⟩
    · have stamp := congrArg (fun identity => identity.2.2) mark
      exact stamp.symm.trans ((stamped b old was).trans key)
    · exact absurd grew (lt_irrefl _)
  cases e with
  | envelope store env =>
      obtain ⟨sequence, posts, outcome⟩ := tlHandleEnvelope_outcome store env s
      exact same (Outcome.issuesActors (n := 0) outcome).1
  | tick => exact same (by rw [serviceStep, tlTick_posts])
  | spawnHostile baseFormId position =>
      cases spawned : acSpawnHostileActor s.session s.nextActorId baseFormId position zeroRot with
      | some session =>
          obtain ⟨hostile, actors, rfl, _, stamp, _, _, _, _, slots⟩ :=
            acSpawnHostileActor_claims spawned
          simp only [serviceStep, spawned, Option.getD_some]
          intro a listed inUse
          rcases Slots.mem_claim slots listed with old | rfl
          · exact stamped a old inUse
          · exact stamp
      | none =>
          simp only [serviceStep, spawned, Option.getD_none]
          exact stamped
  | popDialogueSelect =>
      obtain ⟨_, _, _, frame⟩ := popDialogueSelect_frame s
      exact same (by rw [frame])
  | allocSettlement settlementId center radius budget =>
      obtain ⟨_, frame⟩ := allocSettlement_frame s settlementId center radius budget
      exact same (by rw [frame])
  | host event =>
      obtain ⟨_, _, _, frame⟩ := hostStep_frame s event
      exact same (by rw [serviceStep, frame])
  | _ => exact same rfl

/-! ## Runs -/

/-- The ids in use are distinct, and each is the counter's from before. -/
structure Numbered (s : ServiceState F) : Prop where
  actors : Slots.Issued UInt32.toNat s.nextActorId.toNat s.session.actors.slots
  stamped : Stamped s.session
  objects : Slots.Issued UInt32.toNat s.nextObjectId.toNat s.session.objects.slots

omit [WireFloat F] [LawfulWireFloat F] in
theorem freshService_numbered (sessionId : SessionId) (rules : UInt32) (tickRate : UInt16)
    (whitelist : List UInt32) :
    Numbered (freshService sessionId rules tickRate whitelist : ServiceState F) where
  actors := ⟨.nil, fun _ listed => by cases listed⟩
  stamped _ listed := by cases listed
  objects := ⟨.nil, fun _ listed => by cases listed⟩

theorem run_numbered {events : List (ServiceEvent F)} (numbered : Numbered s)
    (counts : Along serviceStep NotWrapped s events) : Numbered (run serviceStep s events) := by
  have preserved : ∀ (s : ServiceState F) e, Stamped s.session → NotWrapped s e →
      Stamped (serviceStep s e).session := fun _ _ stamped counts => serviceStep_stamped stamped counts
  exact ⟨Slots.run_issued serviceStep_actors numbered.actors counts,
    run_invariant preserved numbered.stamped counts,
    Slots.run_issued serviceStep_objects numbered.objects counts⟩

/-- Whoever has an id later is who has had it before. -/
structure SameIds (earlier later : SessionState F) : Prop where
  actors : ∀ a ∈ earlier.actors.slots, a.inUse = true → ∀ b ∈ later.actors.slots, b.inUse = true →
    b.actorNetId = a.actorNetId → b.identity = a.identity
  objects : ∀ o ∈ earlier.objects.slots, o.inUse = true → ∀ p ∈ later.objects.slots,
    p.inUse = true → p.objectNetId = o.objectNetId → p.identity = o.identity

/-- An id that is not in use, but that the counter has passed, stays unused. -/
structure StaysRetired (earlier later : ServiceState F) : Prop where
  actors : ∀ id < earlier.nextActorId, Slots.lookup id earlier.session.actors.slots = none →
    Slots.lookup id later.session.actors.slots = none
  objects : ∀ id < earlier.nextObjectId, Slots.lookup id earlier.session.objects.slots = none →
    Slots.lookup id later.session.objects.slots = none

/-- Actors and objects have ids of their own at any time, an id that is given up is never given out
again, and an id that is in use at two times stands for the same actor or object. -/
theorem run_netIds (sessionId : SessionId) (rules : UInt32) (tickRate : UInt16)
    (whitelist : List UInt32) (first middle : List (ServiceEvent F))
    (counts : Along serviceStep NotWrapped (freshService sessionId rules tickRate whitelist)
      (first ++ middle)) :
    let earlier := run serviceStep (freshService sessionId rules tickRate whitelist) first
    let later := run serviceStep earlier middle
    Numbered later ∧ SameIds earlier.session later.session ∧ StaysRetired earlier later := by
  intro earlier later
  obtain ⟨before, behind⟩ := along_append.mp counts
  have numbered : Numbered earlier := run_numbered (freshService_numbered _ _ _ _) before
  refine ⟨run_numbered numbered behind, ⟨?_, ?_⟩, ?_, ?_⟩
  · intro a listed inUse b later still same
    exact Slots.run_same serviceStep_actors numbered.actors behind listed inUse later still same
  · intro o listed inUse p later still same
    exact Slots.run_same serviceStep_objects numbered.objects behind listed inUse later still same
  · intro id passed unused
    exact Slots.run_retired serviceStep_actors behind (UInt32.lt_iff_toNat_lt.mp passed) unused
  · intro id passed unused
    exact Slots.run_retired serviceStep_objects behind (UInt32.lt_iff_toNat_lt.mp passed) unused

end Events

theorem run_netIds_two :
    let earlier := run serviceStep (freshService (F := Binary32) 1 15 20 [])
      [.spawnHostile 7 zeroVec]
    let later := run serviceStep earlier [.spawnHostile 8 zeroVec, .tick]
    Numbered later ∧ SameIds earlier.session later.session ∧ StaysRetired earlier later :=
  run_netIds 1 15 20 [] [.spawnHostile 7 zeroVec] [.spawnHostile 8 zeroVec, .tick] (by decide +kernel)

end F4MP.Service

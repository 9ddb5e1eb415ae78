import F4MP.Service.Discipline

/-!
# The life of a hostile

A hostile is spawned whole, loses a quarter of its health with every hit, dies once, and is out of the
table two ticks later.
-/

namespace F4MP.Service
open SoftFloat CFloat Protocol Transition

variable {F : Type}

inductive CombatEvent (F : Type) where
  | spawn (baseFormId : UInt32) (position : Vec3f F) (rotation : Rot3f F)
  | fire (msg : MsgFireIntent F)
  | tick

def CombatEvent.isSpawn : CombatEvent F → Bool
  | .spawn .. => true
  | _ => false

def CombatEvent.isTick : CombatEvent F → Bool
  | .tick => true
  | _ => false

section Steps
variable [CFloat F] [WireFloat F]

def combatStep (s : ServiceState F) : CombatEvent F → ServiceState F
  | .spawn baseFormId position rotation =>
      let spawned := acSpawnHostileActor s.session s.nextActorId baseFormId position rotation
      { s with session := spawned.getD s.session, nextActorId := s.nextActorId + 1 }
  | .fire msg =>
      match acHandleFireIntent s.session msg with
      | none => s
      | some outcome => { s with session := outcome.session }
  | .tick => tlTick s

/-- The actor that a step produces a death event about. -/
def deathAt (s : ServiceState F) : CombatEvent F → Option ActorNetId
  | .fire msg => do
      let outcome ← acHandleFireIntent s.session msg
      let death ← outcome.death
      return death.victimActorNetId
  | _ => none

/-- The actors that death events are produced about, in order. -/
def deaths (s : ServiceState F) (events : List (CombatEvent F)) : List ActorNetId :=
  emitted combatStep deathAt s events

end Steps

/-! ## What a step does to the actors -/

section Actors
variable [CFloat F]

theorem hit_dead_iff {a : ActorRuntimeState F} (alive : a.dead = false) :
    a.hit.dead = true ↔ le a.hit.replicatedState.healthNorm (lit 0 1) = true := by
  constructor
  · intro dead
    by_contra healthy
    have written : a.hit.replicatedState.actorFlags = a.replicatedState.actorFlags :=
      if_neg healthy
    rw [ActorRuntimeState.dead, written, ← ActorRuntimeState.dead, alive] at dead
    cases dead
  · exact a.hit_dead

/-- A tick keeps of the dead only those that were not marked, and marks them. -/
theorem tickSession_kept {s : ServiceState F} (distinct : Slots.Distinct s.session.actors.slots) :
    Slots.Distinct (tickSession s).actors.slots ∧
      ∀ b ∈ (tickSession s).actors.slots, b.inUse = true → ∃ a ∈ s.session.actors.slots,
        a.inUse = true ∧ b = a.mark ∧ (a.dead = true → a.pendingDespawn = false) := by
  have turned := markedSession_slots distinct
  have marked : Slots.Distinct (markedSession s).actors.slots := by
    rw [turned]
    exact distinct.map ActorRuntimeState.turn_keeps
  have removed := wsRemoveActors_slots marked (actorsToDespawn (markedSession s))
  rw [tickSession, removed]
  refine ⟨marked.map fun a live => ?_, fun b member inUse => ?_⟩
  · split at live
    · cases live
    · rename_i stays
      rw [if_neg stays]
      exact ⟨live, rfl⟩
  · obtain ⟨c, listed, rfl⟩ := List.mem_map.mp member
    split at inUse
    · cases inUse
    · rename_i stays
      rw [if_neg stays]
      rw [turned] at listed
      obtain ⟨a, before, rfl⟩ := List.mem_map.mp listed
      obtain ⟨same, unmarked⟩ := ActorRuntimeState.turn_live inUse
      have live := (a.turn_keeps inUse).1
      refine ⟨a, before, live, same, fun dead => unmarked ?_⟩
      rw [ActorRuntimeState.fallen, live, dead]
      rfl

omit [CFloat F] in
theorem ActorRuntimeState.mark_dead (a : ActorRuntimeState F) : a.mark.dead = a.dead := by
  rw [mark]
  split <;> rfl

omit [CFloat F] in
theorem ActorRuntimeState.mark_health (a : ActorRuntimeState F) :
    a.mark.replicatedState.healthNorm = a.replicatedState.healthNorm := by
  rw [mark]
  split <;> rfl

omit [CFloat F] in
theorem ActorRuntimeState.mark_pending {a : ActorRuntimeState F} (inUse : a.inUse = true)
    (dead : a.dead = true) : a.mark.pendingDespawn = true := by
  have fallen : a.fallen = true := by rw [ActorRuntimeState.fallen, inUse, dead]; rfl
  rw [mark, if_pos fallen]

theorem hit_kept {s : SessionState F} (distinct : Slots.Distinct s.actors.slots) {i : Nat}
    {target : ActorRuntimeState F} (at_ : s.actors.slots[i]? = some target)
    (inUse : target.inUse = true) :
    Slots.Distinct (s.actors.modify i ActorRuntimeState.hit).slots ∧
      ∀ b ∈ (s.actors.modify i ActorRuntimeState.hit).slots, b.inUse = true →
        b = target.hit ∨ b ∈ s.actors.slots ∧ b.actorNetId ≠ target.actorNetId := by
  refine ⟨distinct.modify fun a live => ⟨live, rfl⟩, fun b listed live => ?_⟩
  have slots : (s.actors.modify i ActorRuntimeState.hit).slots =
      s.actors.slots.map fun a => if Slots.holds target.actorNetId a then a.hit else a :=
    (Slots.modify_holds distinct at_ inUse _).trans (Slots.modifyFirst_holds distinct _ _)
  rw [slots] at listed
  obtain ⟨a, before, rfl⟩ := List.mem_map.mp listed
  have found := Slots.lookup_of_mem distinct (List.mem_of_getElem? at_) inUse
  split at live
  · rename_i held
    obtain ⟨liveA, same⟩ := Slots.holds_iff.mp held
    have foundA := Slots.lookup_of_mem distinct before liveA
    rw [same] at foundA
    obtain rfl := Option.some.inj (foundA.symm.trans found)
    exact .inl (if_pos held)
  · rename_i other
    rw [if_neg other]
    exact .inr ⟨before, fun same => other (Slots.holds_iff.mpr ⟨live, same⟩)⟩

variable [WireFloat F]

/-- What an actor in use after a step was before it. -/
inductive Became (s : ServiceState F) : CombatEvent F → ActorRuntimeState F → Prop where
  | stayed {e : CombatEvent F} {a : ActorRuntimeState F} (listed : a ∈ s.session.actors.slots)
      (passes : e.isTick = false) (lives : ∀ id ∈ deathAt s e, a.actorNetId ≠ id) : Became s e a
  | shot {msg : MsgFireIntent F} {a : ActorRuntimeState F} (listed : a ∈ s.session.actors.slots)
      (alive : a.dead = false)
      (killed : deathAt s (.fire msg) =
        if le a.hit.replicatedState.healthNorm (lit 0 1) then some a.actorNetId else none) :
      Became s (.fire msg) a.hit
  | ticked {a : ActorRuntimeState F} (listed : a ∈ s.session.actors.slots) (inUse : a.inUse = true)
      (unmarked : a.dead = true → a.pendingDespawn = false) : Became s .tick a.mark
  | spawned {baseFormId : UInt32} {position : Vec3f F} {rotation : Rot3f F}
      {hostile : ActorRuntimeState F} (numbered : hostile.actorNetId = s.nextActorId)
      (alive : hostile.dead = false) (whole : hostile.replicatedState.healthNorm = lit 1 1) :
      Became s (.spawn baseFormId position rotation) hostile

omit [WireFloat F] in
/-- A shot that hits, and what comes of it. -/
theorem fire_cases (s : ServiceState F) (msg : MsgFireIntent F) :
    (combatStep s (.fire msg) = s ∧ deathAt s (.fire msg) = none) ∨
    ∃ i target, s.session.actors.slots[i]? = some target ∧ target.inUse = true ∧
      target.dead = false ∧ combatStep s (.fire msg) = { s with session := { s.session with
        actors := s.session.actors.modify i ActorRuntimeState.hit } } ∧
      deathAt s (.fire msg) =
        if le target.hit.replicatedState.healthNorm (lit 0 1) then some target.actorNetId
        else none := by
  simp only [combatStep, deathAt]
  cases fired : acHandleFireIntent s.session msg with
  | none => exact .inl ⟨rfl, rfl⟩
  | some outcome =>
      rcases acHandleFireIntent_cases fired with rfl | ⟨i, target, at_, inUse, alive, _, rfl⟩
      · exact .inl ⟨rfl, rfl⟩
      · refine .inr ⟨i, target, at_, inUse, alive, rfl, ?_⟩
        simp only [Option.bind_eq_bind, Option.bind_some]
        split <;> rfl

theorem combatStep_became {s : ServiceState F} (distinct : Slots.Distinct s.session.actors.slots)
    (e : CombatEvent F) {b : ActorRuntimeState F}
    (listed : b ∈ (combatStep s e).session.actors.slots) (inUse : b.inUse = true) :
    Became s e b := by
  cases e with
  | spawn baseFormId position rotation =>
      simp only [combatStep] at listed
      cases spawned : acSpawnHostileActor s.session s.nextActorId baseFormId position rotation with
      | none =>
          rw [spawned] at listed
          exact .stayed listed rfl nofun
      | some session =>
          obtain ⟨hostile, actors, rfl, id, _, _, _, alive, whole, slots⟩ :=
            acSpawnHostileActor_claims spawned
          rw [spawned] at listed
          rcases Slots.mem_claim slots listed with old | rfl
          · exact .stayed old rfl nofun
          · exact .spawned id alive whole
  | fire msg =>
      rcases fire_cases s msg with ⟨unchanged, lives⟩ |
        ⟨i, target, at_, live, alive, after, killed⟩
      · rw [unchanged] at listed
        exact .stayed listed rfl fun id died => by rw [lives] at died; cases died
      · rw [after] at listed
        rcases (hit_kept distinct at_ live).2 b listed inUse with rfl | ⟨old, other⟩
        · exact .shot (List.mem_of_getElem? at_) alive killed
        · refine .stayed old rfl fun id died => ?_
          rw [killed] at died
          split at died
          · exact Option.some.inj died ▸ other
          · cases died
  | tick =>
      rw [combatStep, tlTick_posts] at listed
      obtain ⟨a, before, live, rfl, unmarked⟩ := (tickSession_kept distinct).2 b listed inUse
      exact .ticked before live unmarked

omit [WireFloat F] in
theorem deathAt_alive {s : ServiceState F} {e : CombatEvent F} {id : ActorNetId}
    (died : deathAt s e = some id) : ∃ target ∈ s.session.actors.slots, target.inUse = true ∧
      target.dead = false ∧ target.actorNetId = id := by
  cases e with
  | spawn => cases died
  | tick => cases died
  | fire msg =>
      rcases fire_cases s msg with ⟨_, lives⟩ | ⟨i, target, at_, live, alive, _, killed⟩
      · cases lives.symm.trans died
      · rw [killed] at died
        split at died
        · exact ⟨target, List.mem_of_getElem? at_, live, alive, Option.some.inj died⟩
        · cases died

theorem combatStep_distinct {s : ServiceState F} (distinct : Slots.Distinct s.session.actors.slots)
    (unused : ∀ a ∈ s.session.actors.slots, a.inUse = true → a.actorNetId ≠ s.nextActorId)
    (e : CombatEvent F) : Slots.Distinct (combatStep s e).session.actors.slots := by
  cases e with
  | spawn baseFormId position rotation =>
      simp only [combatStep]
      cases spawned : acSpawnHostileActor s.session s.nextActorId baseFormId position rotation with
      | none => exact distinct
      | some session =>
          obtain ⟨hostile, actors, rfl, id, _, _, _, _, _, slots⟩ :=
            acSpawnHostileActor_claims spawned
          refine distinct.claim slots (Slots.lookup_eq_none.mpr fun a listed inUse same => ?_)
          exact unused a listed inUse (same.trans id)
  | fire msg =>
      rcases fire_cases s msg with ⟨unchanged, _⟩ | ⟨i, target, at_, live, _, after, _⟩
      · rw [unchanged]
        exact distinct
      · rw [after]
        exact (hit_kept distinct at_ live).1
  | tick =>
      rw [combatStep, tlTick_posts]
      exact (tickSession_kept distinct).1

end Actors

/-! ## Deaths -/

section Deaths
variable [CFloat F] {s : ServiceState F} {died : List ActorNetId} {e : CombatEvent F}

def spawns (events : List (CombatEvent F)) : Nat := events.countP (·.isSpawn)

def ticks (events : List (CombatEvent F)) : Nat := events.countP (·.isTick)

/-- The actors in use have their own ids, of those drawn so far, and those that have died are dead. -/
structure Mortal (s : ServiceState F) (died : List ActorNetId) : Prop where
  distinct : Slots.Distinct s.session.actors.slots
  begun : s.nextActorId ≠ 0
  numbered : ∀ a ∈ s.session.actors.slots, a.inUse = true → a.actorNetId ≠ 0
  drawn : ∀ a ∈ s.session.actors.slots, a.inUse = true → a.actorNetId.toNat < s.nextActorId.toNat
  past : ∀ id ∈ died, id.toNat < s.nextActorId.toNat
  once : died.Nodup
  dead : ∀ a ∈ s.session.actors.slots, a.inUse = true → a.actorNetId ∈ died → a.dead = true

variable [WireFloat F]

theorem combatStep_counter (room : s.nextActorId.toNat + spawns [e] < 2 ^ 32) :
    (combatStep s e).nextActorId.toNat = s.nextActorId.toNat + spawns [e] := by
  cases e with
  | spawn baseFormId position rotation =>
      have one : spawns [CombatEvent.spawn baseFormId position rotation] = 1 := rfl
      rw [one] at room ⊢
      exact (UInt32.toNat_add _ _).trans (Nat.mod_eq_of_lt room)
  | fire msg =>
      rcases fire_cases s msg with ⟨unchanged, _⟩ | ⟨_, _, _, _, _, after, _⟩
      · rw [unchanged]
        rfl
      · rw [after]
        rfl
  | tick =>
      rw [combatStep, tlTick_posts]
      rfl

omit [WireFloat F] in
/-- Where the actors in use after a step come from, and that none of them comes back to life. -/
theorem Became.origin {b : ActorRuntimeState F} (became : Became s e b) (inUse : b.inUse = true) :
    (∃ a ∈ s.session.actors.slots, a.inUse = true ∧ b.actorNetId = a.actorNetId ∧
      (a.dead = true → b.dead = true)) ∨
    (e.isSpawn = true ∧ b.actorNetId = s.nextActorId) := by
  cases became with
  | stayed listed => exact .inl ⟨b, listed, inUse, rfl, id⟩
  | @shot msg a listed alive =>
      exact .inl ⟨a, listed, inUse, rfl, fun dead => by rw [alive] at dead; cases dead⟩
  | @ticked a listed live =>
      exact .inl ⟨a, listed, live, a.mark_actorNetId, fun dead => a.mark_dead.trans dead⟩
  | spawned numbered => exact .inr ⟨rfl, numbered⟩

omit [WireFloat F] in
theorem Became.lives {b : ActorRuntimeState F} (became : Became s e b) {id : ActorNetId}
    (died : deathAt s e = some id) (same : b.actorNetId = id) : b.dead = true := by
  cases became with
  | stayed listed passes lives => exact absurd same (lives id died)
  | shot listed alive killed =>
      rw [killed] at died
      split at died
      · rename_i lethal
        exact ActorRuntimeState.hit_dead _ lethal
      · cases died
  | ticked => cases died
  | spawned => cases died

theorem Mortal.step (mortal : Mortal s died)
    (room : s.nextActorId.toNat + spawns [e] < 2 ^ 32) :
    Mortal (combatStep s e) (died ++ (deathAt s e).toList) := by
  have counter := combatStep_counter room
  have unused : ∀ a ∈ s.session.actors.slots, a.inUse = true → a.actorNetId ≠ s.nextActorId :=
    fun a listed inUse same => Nat.lt_irrefl _ (same ▸ mortal.drawn a listed inUse)
  refine ⟨combatStep_distinct mortal.distinct unused e, ?_, fun b listed inUse => ?_,
    fun b listed inUse => ?_, fun id late => ?_, ?_, fun b listed inUse late => ?_⟩
  · intro wrapped
    rw [wrapped] at counter
    exact mortal.begun (UInt32.toNat_inj.mp (Nat.eq_zero_of_add_eq_zero_right counter.symm))
  · rcases (combatStep_became mortal.distinct e listed inUse).origin inUse with
      ⟨a, before, live, same, _⟩ | ⟨_, same⟩
    · rw [same]
      exact mortal.numbered a before live
    · rw [same]
      exact mortal.begun
  · rw [counter]
    rcases (combatStep_became mortal.distinct e listed inUse).origin inUse with
      ⟨a, before, live, same, _⟩ | ⟨spawn, same⟩
    · rw [same]
      exact Nat.lt_add_right _ (mortal.drawn a before live)
    · have one : spawns [e] = 1 := by simp only [spawns, List.countP_singleton, spawn, if_true]
      rw [same, one]
      exact Nat.lt_succ_self _
  · rw [counter]
    apply Nat.lt_add_right
    rcases List.mem_append.mp late with early | now
    · exact mortal.past id early
    · obtain ⟨target, before, live, _, rfl⟩ := deathAt_alive (Option.mem_toList.mp now)
      exact mortal.drawn target before live
  · refine List.nodup_append.mpr ⟨mortal.once, Option.toList_nodup _, fun id early other now => ?_⟩
    rintro rfl
    obtain ⟨target, before, live, alive, rfl⟩ := deathAt_alive (Option.mem_toList.mp now)
    rw [mortal.dead target before live early] at alive
    cases alive
  · have became := combatStep_became mortal.distinct e listed inUse
    rcases List.mem_append.mp late with early | now
    · rcases became.origin inUse with ⟨a, before, live, same, stays⟩ | ⟨_, same⟩
      · exact stays (mortal.dead a before live (same ▸ early))
      · exact absurd (mortal.past _ early) (by rw [same]; exact Nat.lt_irrefl _)
    · exact became.lives (Option.mem_toList.mp now) rfl

theorem combatStep_room {rest : List (CombatEvent F)}
    (room : s.nextActorId.toNat + spawns (e :: rest) < 2 ^ 32) :
    s.nextActorId.toNat + spawns [e] < 2 ^ 32 ∧
      (combatStep s e).nextActorId.toNat + spawns rest < 2 ^ 32 := by
  have split : spawns (e :: rest) = spawns [e] + spawns rest :=
    @List.countP_append _ _ [e] rest
  rw [split, ← Nat.add_assoc] at room
  have now := Nat.lt_of_le_of_lt (Nat.le_add_right _ _) room
  exact ⟨now, by rwa [combatStep_counter now]⟩

theorem run_room {before after : List (CombatEvent F)}
    (room : s.nextActorId.toNat + spawns (before ++ after) < 2 ^ 32) :
    (run combatStep s before).nextActorId.toNat + spawns after < 2 ^ 32 := by
  induction before generalizing s with
  | nil => exact room
  | cons e rest ih => exact ih (combatStep_room room).2

theorem Mortal.run {events : List (CombatEvent F)} (mortal : Mortal s died)
    (room : s.nextActorId.toNat + spawns events < 2 ^ 32) :
    Mortal (run combatStep s events) (died ++ deaths s events) := by
  induction events generalizing s died with
  | nil => rwa [deaths, emitted, List.append_nil]
  | cons e rest ih =>
      obtain ⟨now, later⟩ := combatStep_room room
      have after := ih (mortal.step now) later
      rwa [List.append_assoc] at after

/-! ## Leaving the table -/

/-- How far a dead actor has got: dead, marked, gone. -/
def Departing (passed : Nat) (a : ActorRuntimeState F) : Prop :=
  match passed with
  | 0 => a.dead = true
  | 1 => a.dead = true ∧ a.pendingDespawn = true
  | _ + 2 => False

omit [CFloat F] [WireFloat F] in
theorem Departing.dead {passed : Nat} {a : ActorRuntimeState F} (departing : Departing passed a) :
    a.dead = true := by
  match passed, departing with
  | 0, dead => exact dead
  | 1, marked => exact marked.1

/-- The actor of an id, where it is still in the table, has got so far. -/
def Departs (s : ServiceState F) (id : ActorNetId) (passed : Nat) : Prop :=
  ∀ a ∈ s.session.actors.slots, a.inUse = true → a.actorNetId = id → Departing passed a

theorem Departs.step {id : ActorNetId} {passed : Nat} (mortal : Mortal s died) (past : id ∈ died)
    (departs : Departs s id passed) :
    Departs (combatStep s e) id (passed + ticks [e]) := by
  intro b listed inUse same
  have became := combatStep_became mortal.distinct e listed inUse
  cases became with
  | stayed before passes =>
      have none : ticks [e] = 0 := by
        simp only [ticks, List.countP_singleton, passes]
        rfl
      rw [none]
      exact departs b before inUse same
  | @shot msg a before alive =>
      have dead := (departs a before inUse same).dead
      rw [alive] at dead
      cases dead
  | @ticked a before live unmarked =>
      rw [ActorRuntimeState.mark_actorNetId] at same
      have departing := departs a before live same
      match passed, departing with
      | 0, dead => exact ⟨a.mark_dead.trans dead, ActorRuntimeState.mark_pending live dead⟩
      | 1, marked =>
          have pending := unmarked marked.1
          rw [marked.2] at pending
          cases pending
  | spawned numbered =>
      exact absurd (mortal.past id past) (by rw [← same, numbered]; exact Nat.lt_irrefl _)

theorem Departs.run {id : ActorNetId} {passed : Nat} {events : List (CombatEvent F)}
    (mortal : Mortal s died) (room : s.nextActorId.toNat + spawns events < 2 ^ 32)
    (past : id ∈ died) (departs : Departs s id passed) :
    Departs (run combatStep s events) id (passed + ticks events) := by
  induction events generalizing s died passed with
  | nil => exact departs
  | cons e rest ih =>
      obtain ⟨now, later⟩ := combatStep_room room
      have turns : ticks (e :: rest) = ticks [e] + ticks rest :=
        @List.countP_append _ _ [e] rest
      rw [turns, ← Nat.add_assoc]
      exact ih (mortal.step now) later (List.mem_append_left _ past) (departs.step mortal past)

end Deaths

/-! ## Health -/

section Health
variable {s : ServiceState Binary32}

/-- The health that hits leave of a whole hostile. -/
def healthLevels : List Binary32 := [lit 1 1, lit 3 4, lit 1 2, lit 1 4, lit 0 1]

/-- The actors in use are at one of the levels, and dead at the last. -/
def Wounded (s : ServiceState Binary32) : Prop :=
  ∀ a ∈ s.session.actors.slots, a.inUse = true → a.replicatedState.healthNorm ∈ healthLevels ∧
    (a.dead = true ↔ a.replicatedState.healthNorm = lit 0 1)

theorem healthAfterHit_level : ∀ health ∈ healthLevels, health ≠ lit 0 1 →
    healthAfterHit health = sub health (lit 1 4) ∧ healthAfterHit health ∈ healthLevels ∧
      (le (healthAfterHit health) (lit 0 1) = true ↔ healthAfterHit health = lit 0 1) := by
  decide +kernel

theorem Wounded.hit (wounded : Wounded s) {a : ActorRuntimeState Binary32}
    (listed : a ∈ s.session.actors.slots) (inUse : a.inUse = true) (alive : a.dead = false) :
    a.hit.replicatedState.healthNorm = sub a.replicatedState.healthNorm (lit 1 4) ∧
      a.hit.replicatedState.healthNorm ∈ healthLevels ∧
      (a.hit.dead = true ↔ a.hit.replicatedState.healthNorm = lit 0 1) := by
  obtain ⟨level, last⟩ := wounded a listed inUse
  have some : a.replicatedState.healthNorm ≠ lit 0 1 := by
    intro none
    rw [last.mpr none] at alive
    cases alive
  obtain ⟨quarter, next, lethal⟩ := healthAfterHit_level _ level some
  exact ⟨quarter, next, (hit_dead_iff alive).trans lethal⟩

theorem Wounded.step (wounded : Wounded s) (distinct : Slots.Distinct s.session.actors.slots)
    (e : CombatEvent Binary32) : Wounded (combatStep s e) := by
  intro b listed inUse
  cases combatStep_became distinct e listed inUse with
  | stayed before => exact wounded b before inUse
  | shot before alive => exact (wounded.hit before inUse alive).2
  | @ticked a before live =>
      rw [ActorRuntimeState.mark_dead, ActorRuntimeState.mark_health]
      exact wounded a before live
  | spawned numbered alive whole =>
      rw [alive, whole]
      decide +kernel

theorem Wounded.run {died : List ActorNetId} {events : List (CombatEvent Binary32)}
    (wounded : Wounded s) (mortal : Mortal s died)
    (room : s.nextActorId.toNat + spawns events < 2 ^ 32) :
    Wounded (run combatStep s events) := by
  induction events generalizing s died with
  | nil => exact wounded
  | cons e rest ih =>
      obtain ⟨now, later⟩ := combatStep_room room
      exact ih (wounded.step mortal.distinct e) (mortal.step now) later

end Health

/-! ## The whole life -/

section Life
variable {s : ServiceState Binary32} {died : List ActorNetId} {outcome : FireOutcome Binary32}

/-- What a fire intent does and tells, among actors of which some have died. -/
structure FairShot (s : SessionState Binary32) (died : List ActorNetId)
    (outcome : FireOutcome Binary32) : Prop where
  missed : outcome.damage.victimActorNetId = 0 → outcome.session = s
  quarter : outcome.damage.victimActorNetId ≠ 0 → ∃ victim ∈ s.actors.slots,
    victim.inUse = true ∧ victim.actorNetId = outcome.damage.victimActorNetId ∧
      outcome.damage.healthAfter = sub victim.replicatedState.healthNorm (lit 1 4)
  taken : outcome.damage.victimActorNetId ≠ 0 → ∀ a ∈ outcome.session.actors.slots,
    a.inUse = true → a.actorNetId = outcome.damage.victimActorNetId →
      a.replicatedState.healthNorm = outcome.damage.healthAfter
  killed : outcome.damage.flags &&& DamageResultFlags.killed ≠ 0 ↔ outcome.death.isSome = true
  spared : outcome.damage.victimActorNetId ≠ 0 → outcome.damage.victimActorNetId ∉ died

theorem fairShot (mortal : Mortal s died) (wounded : Wounded s) {msg : MsgFireIntent Binary32}
    (fired : acHandleFireIntent s.session msg = some outcome) :
    FairShot s.session died outcome := by
  rcases acHandleFireIntent_cases fired with rfl | ⟨i, target, at_, inUse, alive, _, rfl⟩
  · exact ⟨fun _ => rfl, absurd rfl, absurd rfl, by simp [FireOutcome.miss], absurd rfl⟩
  · have listed := List.mem_of_getElem? at_
    refine ⟨fun none => absurd none (mortal.numbered target listed inUse), fun _ => ?_, fun _ => ?_,
      ?_, fun _ late => ?_⟩
    · exact ⟨target, listed, inUse, rfl, (wounded.hit listed inUse alive).1⟩
    · intro a after live same
      rcases (hit_kept mortal.distinct at_ inUse).2 a after live with rfl | ⟨_, other⟩
      · rfl
      · exact absurd same other
    · by_cases lethal : le target.hit.replicatedState.healthNorm (lit 0 1) = true
      · simp only [hitDamage, lethal, if_true, Option.isSome_some, iff_true]
        decide
      · simp [hitDamage, lethal]
    · have dead := mortal.dead target listed inUse late
      rw [alive] at dead
      cases dead

/-- The combat of a run of the service. -/
structure CombatLifecycle (s : ServiceState Binary32) (events : List (CombatEvent Binary32)) :
    Prop where
  health : ∀ a ∈ (run combatStep s events).session.actors.slots, a.inUse = true →
    a.replicatedState.healthNorm ∈ healthLevels ∧
      (a.dead = true ↔ a.replicatedState.healthNorm = lit 0 1)
  shots : ∀ before msg after outcome, events = before ++ .fire msg :: after →
    acHandleFireIntent (run combatStep s before).session msg = some outcome →
      FairShot (run combatStep s before).session (deaths s before) outcome
  once : (deaths s events).Nodup
  gone : ∀ before e after id, events = before ++ e :: after →
    deathAt (run combatStep s before) e = some id → 2 ≤ ticks after →
      ∀ a ∈ (run combatStep s events).session.actors.slots, a.inUse = true → a.actorNetId ≠ id

theorem Mortal.of_empty (empty : ∀ a ∈ s.session.actors.slots, a.inUse = false)
    (begun : s.nextActorId ≠ 0) : Mortal s [] := by
  have unused : ∀ a ∈ s.session.actors.slots, a.inUse ≠ true := by
    intro a listed inUse
    rw [empty a listed] at inUse
    cases inUse
  exact {
    distinct := Slots.Distinct.of_unused empty
    begun
    numbered := fun a listed inUse => absurd inUse (unused a listed)
    drawn := fun a listed inUse => absurd inUse (unused a listed)
    past := fun _ late => absurd late List.not_mem_nil
    once := List.nodup_nil
    dead := fun a listed inUse => absurd inUse (unused a listed) }

/-- Every hostile of a run of spawns, shots and ticks is at a level of health, dies once, and is gone
two ticks later. -/
theorem combatLifecycle {events : List (CombatEvent Binary32)}
    (empty : ∀ a ∈ s.session.actors.slots, a.inUse = false) (start : 2000 ≤ s.nextActorId.toNat)
    (room : s.nextActorId.toNat + spawns events < 2 ^ 32) : CombatLifecycle s events := by
  have begun : s.nextActorId ≠ 0 := by
    rintro zero
    rw [zero] at start
    exact absurd start (by decide)
  have mortal := Mortal.of_empty empty begun
  have wounded : Wounded s := by
    intro a listed inUse
    rw [empty a listed] at inUse
    cases inUse
  -- what holds at the end of a run holds behind each of its events
  have midway : ∀ before after, events = before ++ after →
      Mortal (run combatStep s before) (deaths s before) ∧ Wounded (run combatStep s before) ∧
        (run combatStep s before).nextActorId.toNat + spawns after < 2 ^ 32 := by
    rintro before after rfl
    have sooner : s.nextActorId.toNat + spawns before < 2 ^ 32 := by
      refine Nat.lt_of_le_of_lt (Nat.add_le_add_left ?_ _) room
      rw [spawns, spawns, List.countP_append]
      exact Nat.le_add_right _ _
    exact ⟨mortal.run sooner, wounded.run mortal sooner, run_room room⟩
  obtain ⟨last, healthy, _⟩ := midway events [] (List.append_nil _).symm
  refine ⟨healthy, fun before msg after outcome parts fired => ?_, last.once,
    fun before e after id parts died enough a listed inUse same => ?_⟩
  · obtain ⟨alive, hurt, _⟩ := midway before _ parts
    exact fairShot alive hurt fired
  · have parted : events = (before ++ [e]) ++ after := by rw [parts, List.append_assoc]; rfl
    obtain ⟨alive, _, later⟩ := midway (before ++ [e]) after parted
    have past : id ∈ deaths s (before ++ [e]) := by
      rw [deaths, emitted_append, emitted, died]
      exact List.mem_append_right _ (List.mem_singleton.mpr rfl)
    have fell : Departs (run combatStep s (before ++ [e])) id 0 :=
      fun b before live own => alive.dead b before live (own ▸ past)
    rw [parted, run_append] at listed
    have departing := fell.run alive later past a listed inUse same
    rw [Nat.zero_add, ← Nat.sub_add_cancel enough] at departing
    exact departing

/-- One player shoots one hostile until it is gone. -/
theorem combatLifecycle_duel :
    let greeting : Body Binary32 .hello := (⟨0, 0⟩, [0x41], [])
    let joined : ServiceState Binary32 := run serviceStep (freshService 1 15 20 [])
      [.envelope ⟨fun _ => none⟩ (envelopeOf 100 .hello greeting)]
    let shot : MsgFireIntent Binary32 := ⟨1, 0, 7, zeroVec, ⟨lit 1 1, lit 0 1, lit 0 1⟩, 0, {}, 0⟩
    let events := .spawn 7 ⟨lit 10 1, lit 0 1, lit 0 1⟩ zeroRot ::
      List.replicate 5 (.fire shot) ++ [.tick, .tick]
    CombatLifecycle joined events ∧ deaths joined events = [2000] := by
  intro greeting joined shot events
  exact ⟨combatLifecycle (by decide +kernel) (by decide +kernel) (by decide +kernel),
    by decide +kernel⟩

end Life

end F4MP.Service

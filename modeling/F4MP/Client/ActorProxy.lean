import F4MP.Client.Apply

/-!
# Actors that a client shows

What the five messages about actors do to the map from ids to what is shown of an actor.
-/

namespace F4MP.Client
open SoftFloat CFloat Protocol Service

variable {F U : Type}

/-- What a client shows of an actor's life. -/
structure ActorView (F : Type) where
  healthNorm : F
  actorFlags : UInt16
  isDead : Bool
  deriving DecidableEq

abbrev ActorMap (F : Type) := ActorNetId → Option (ActorView F)

def ProxyActorRecord.view (record : ProxyActorRecord F) : ActorView F :=
  ⟨record.healthNorm, record.actorFlags, record.isDead⟩

def actorsShown (actors : ActorProxies F) : ActorMap F :=
  Slots.view ProxyActorRecord.view actors.slots

/-- The actor a message is about. -/
def aboutActor : (type : MessageType) → Body F type → Option ActorNetId
  | .actorSpawn, msg => some msg.actorNetId
  | .actorState, msg => some msg.actorNetId
  | .actorDespawn, msg => some msg.actorNetId
  | .damageResult, msg => some msg.victimActorNetId
  | .deathEvent, msg => some msg.victimActorNetId
  | _, _ => none

/-- The actor a message makes a record for, if there is none. -/
def spawnsActor : (type : MessageType) → Body F type → Option ActorNetId
  | .actorSpawn, msg => some msg.actorNetId
  | .actorState, msg => some msg.actorNetId
  | _, _ => none

section Messages
variable [CFloat F]

namespace ActorView

def spawned : ActorView F := ⟨lit 1 1, 0, false⟩

def state (msg : MsgActorState F) (view : ActorView F) : ActorView F where
  healthNorm := msg.healthNorm
  actorFlags := msg.actorFlags
  isDead := if lt (lit 0 1) msg.healthNorm then false else view.isDead

def damage (msg : MsgDamageResult F) (view : ActorView F) : ActorView F where
  healthNorm := msg.healthAfter
  actorFlags := view.actorFlags
  isDead := if msg.flags &&& DamageResultFlags.killed != 0 || le msg.healthAfter (lit 0 1) then true
    else view.isDead

def die (view : ActorView F) : ActorView F :=
  { view with healthNorm := lit 0 1, isDead := true }

theorem damage_damage (msg : MsgDamageResult F) (view : ActorView F) :
    (view.damage msg).damage msg = view.damage msg := by
  simp only [damage]
  split <;> rfl

theorem state_state (msg : MsgActorState F) (view : ActorView F) :
    (view.state msg).state msg = view.state msg := by
  simp only [state]
  split <;> rfl

end ActorView

variable {actors : ActorProxies F} {c : ClientState F U}

/-! ## The table -/

theorem proxySpawnActor_shown {spec : ProxyActorSpawnSpec F}
    (done : (proxySpawnActor spec actors).1 = true) : actorsShown (proxySpawnActor spec actors).2 =
      Function.update (actorsShown actors) spec.actorNetId (some .spawned) := by
  rw [proxySpawnActor] at done ⊢
  cases stored : actors.store (spawnedActor spec) with
  | none =>
      rw [stored] at done
      cases done
  | some after => exact Slots.view_store (Slots.Table.store_slots stored) rfl

theorem proxySpawnActor_refused {spec : ProxyActorSpawnSpec F}
    (refused : (proxySpawnActor spec actors).1 = false) :
    (proxySpawnActor spec actors).2 = actors ∧ actorsShown actors spec.actorNetId = none := by
  rw [proxySpawnActor] at refused ⊢
  cases stored : actors.store (spawnedActor spec) with
  | none =>
      refine ⟨rfl, ?_⟩
      cases found : Slots.lookup spec.actorNetId actors.slots with
      | none => rw [actorsShown, Slots.view, found]; rfl
      | some record =>
          have held : (Slots.lookup (Slots.Slot.key (spawnedActor spec)) actors.slots).isSome :=
            Option.isSome_iff_exists.mpr ⟨record, found⟩
          have room := Slots.Table.store_isSome_iff.mpr (.inl held)
          rw [stored] at room
          cases room
  | some after =>
      rw [stored] at refused
      cases refused

/-- There is a free record. -/
def ActorProxies.HasRoom (actors : ActorProxies F) : Prop := actors.slots.countP (·.inUse) < 128

theorem proxySpawnActor_done {spec : ProxyActorSpawnSpec F} :
    (proxySpawnActor spec actors).1 = true ↔
      (actorsShown actors spec.actorNetId).isSome ∨ ActorProxies.HasRoom actors := by
  have stores : (actors.store (spawnedActor spec)).isSome ↔
      (Slots.lookup spec.actorNetId actors.slots).isSome ∨ ActorProxies.HasRoom actors :=
    Slots.Table.store_isSome_iff
  rw [actorsShown, Slots.view, Option.isSome_map, ← stores, proxySpawnActor]
  cases actors.store (spawnedActor spec) <;> simp

theorem proxySpawnActor_kept {S : ActorNetId → Prop} {P : List (ProxyActorRecord F) → Prop}
    (kept : Slots.Kept 128 S P) {spec : ProxyActorSpawnSpec F} (named : S spec.actorNetId)
    (before : P actors.slots) : P (proxySpawnActor spec actors).2.slots := by
  rw [proxySpawnActor]
  cases stored : actors.store (spawnedActor spec) with
  | none => exact before
  | some after => exact kept.store named rfl (Slots.Table.store_slots stored) before

omit [CFloat F] in
theorem actorsShown_modify {j : ActorNetId} {f : ProxyActorRecord F → ProxyActorRecord F}
    {h : ActorView F → ActorView F}
    (keeps : ∀ record, Slots.holds j record = true → Slots.holds j (f record) = true)
    (seen : ∀ record, (f record).view = h record.view) :
    actorsShown (actors.modifyFirst (Slots.holds j) f) =
      Function.update (actorsShown actors) j ((actorsShown actors j).map h) :=
  Slots.view_update keeps seen

/-! ## The messages -/

theorem applyActorSpawn_shown (backend : RemoteProxyBackend F U) {msg : MsgActorSpawn F}
    (done : (applyMessage backend .actorSpawn msg c).1 = true) :
    actorsShown (applyMessage backend .actorSpawn msg c).2.actors =
      Function.update (actorsShown c.actors) msg.actorNetId (some .spawned) :=
  proxySpawnActor_shown done

/-- What a state writes into the record of its actor. -/
def stateUpdate (msg : MsgActorState F) : ProxyActorUpdateSpec F :=
  ⟨msg.actorNetId, msg.position, msg.rotation, msg.healthNorm, msg.animState, msg.actorFlags,
    msg.targetNetId⟩

omit [CFloat F] in
theorem proxyUpdateActor_shown [CFloat F] {actors : ActorProxies F} {msg : MsgActorState F}
    {view : ActorView F} (known : actorsShown actors msg.actorNetId = some view) :
    (proxyUpdateActor (stateUpdate msg) actors).1 = true ∧
      actorsShown (proxyUpdateActor (stateUpdate msg) actors).2 =
        Function.update (actorsShown actors) msg.actorNetId (some (view.state msg)) := by
  obtain ⟨record, found, _⟩ := Option.map_eq_some_iff.mp known
  refine ⟨Slots.lookup_isSome_iff.mpr (found ▸ rfl), ?_⟩
  refine (actorsShown_modify (f := .update (stateUpdate msg)) (h := .state msg) (fun _ held => held)
    fun _ => rfl).trans ?_
  rw [show actorsShown actors (stateUpdate msg).actorNetId = some view from known]
  rfl

theorem applyActorState_known (backend : RemoteProxyBackend F U) {msg : MsgActorState F}
    {view : ActorView F} (known : actorsShown c.actors msg.actorNetId = some view) :
    actorsShown (applyMessage backend .actorState msg c).2.actors =
      Function.update (actorsShown c.actors) msg.actorNetId (some (view.state msg)) := by
  obtain ⟨record, found, _⟩ := Option.map_eq_some_iff.mp known
  simp only [applyMessage, paApplyActorState, found, Bool.not_true, Bool.false_eq_true, if_false]
  exact (proxyUpdateActor_shown known).2

theorem applyActorState_unknown (backend : RemoteProxyBackend F U) {msg : MsgActorState F}
    (unknown : actorsShown c.actors msg.actorNetId = none) :
    (applyMessage backend .actorState msg c).1 = false ∧ ¬ ActorProxies.HasRoom c.actors ∧
        (applyMessage backend .actorState msg c).2.actors = c.actors ∨
      (applyMessage backend .actorState msg c).1 = true ∧ ActorProxies.HasRoom c.actors ∧
        actorsShown (applyMessage backend .actorState msg c).2.actors = Function.update
          (actorsShown c.actors) msg.actorNetId (some (ActorView.spawned.state msg)) := by
  have absent : Slots.lookup msg.actorNetId c.actors.slots = none := Option.map_eq_none_iff.mp unknown
  obtain ⟨spec, specIs⟩ : ∃ spec : ProxyActorSpawnSpec F, spec =
    { actorNetId := msg.actorNetId, position := msg.position, rotation := msg.rotation } := ⟨_, rfl⟩
  have key : spec.actorNetId = msg.actorNetId := by rw [specIs]
  have room := @proxySpawnActor_done F _ c.actors spec
  rw [key, unknown, Option.isSome_none, Bool.false_eq_true, false_or] at room
  simp only [applyMessage, paApplyActorState, absent, ← specIs]
  cases done : (proxySpawnActor spec c.actors).1 with
  | false =>
      refine .inl ?_
      rw [if_pos (by rw [Bool.not_false])]
      have full : ¬ ActorProxies.HasRoom c.actors := fun free => by
        cases done.symm.trans (room.mpr free)
      exact ⟨rfl, full, (proxySpawnActor_refused done).1⟩
  | true =>
      refine .inr ?_
      rw [if_neg (by rw [Bool.not_true]; exact Bool.false_ne_true)]
      have spawned := proxySpawnActor_shown done
      rw [key] at spawned
      have known : actorsShown (proxySpawnActor spec c.actors).2 msg.actorNetId =
          some ActorView.spawned := by rw [spawned, Function.update_self]
      obtain ⟨updated, shown⟩ := proxyUpdateActor_shown known
      rw [spawned, Function.update_idem] at shown
      exact ⟨updated, room.mp done, shown⟩

theorem applyActorDespawn_shown (backend : RemoteProxyBackend F U)
    (distinct : Slots.Distinct c.actors.slots) (msg : MsgActorDespawn) :
    actorsShown (applyMessage backend .actorDespawn msg c).2.actors =
      Function.update (actorsShown c.actors) msg.actorNetId none := by
  simp only [applyMessage, paApplyActorDespawn]
  split
  · exact Slots.view_release distinct rfl
  · rename_i absent
    have unknown : actorsShown c.actors msg.actorNetId = none := by
      rw [actorsShown, Slots.view, Slots.lookup_none_of_any absent]
      rfl
    rw [← unknown, Function.update_eq_self]

theorem applyDamageResult_shown (backend : RemoteProxyBackend F U) (msg : MsgDamageResult F) :
    actorsShown (applyMessage backend .damageResult msg c).2.actors = Function.update
      (actorsShown c.actors) msg.victimActorNetId
        ((actorsShown c.actors msg.victimActorNetId).map (.damage msg)) :=
  actorsShown_modify (fun _ held => held) fun _ => rfl

theorem applyDeathEvent_shown (backend : RemoteProxyBackend F U) (msg : MsgDeathEvent) :
    actorsShown (applyMessage backend .deathEvent msg c).2.actors = Function.update
      (actorsShown c.actors) msg.victimActorNetId
        ((actorsShown c.actors msg.victimActorNetId).map .die) :=
  actorsShown_modify (fun _ held => held) fun _ => rfl

/-! ## The other messages -/

theorem applyMessage_actors (backend : RemoteProxyBackend F U) {type : MessageType}
    {body : Body F type} (other : aboutActor type body = none) :
    (applyMessage backend type body c).2.actors = c.actors := by
  cases type with
  | actorSpawn => cases other
  | actorState => cases other
  | actorDespawn => cases other
  | damageResult => cases other
  | deathEvent => cases other
  | _ => rfl

theorem applyMessage_actorsKept (backend : RemoteProxyBackend F U) {S : ActorNetId → Prop}
    {P : List (ProxyActorRecord F) → Prop} (kept : Slots.Kept 128 S P) {type : MessageType}
    {body : Body F type} (named : ∀ id, spawnsActor type body = some id → S id)
    (before : P c.actors.slots) : P (applyMessage backend type body c).2.actors.slots := by
  cases type with
  | actorSpawn => exact proxySpawnActor_kept kept (named _ rfl) before
  | actorState =>
      simp only [applyMessage, paApplyActorState]
      cases Slots.lookup body.actorNetId c.actors.slots with
      | some record => exact kept.update (fun _ held => held) before
      | none =>
          have spawned := @proxySpawnActor_kept F _ c.actors S P kept
            { actorNetId := body.actorNetId, position := body.position, rotation := body.rotation }
            (named _ rfl) before
          dsimp only
          split
          · exact spawned
          · exact kept.update (fun _ held => held) spawned
  | actorDespawn =>
      simp only [applyMessage, paApplyActorDespawn]
      split
      · exact kept.release rfl before
      · exact before
  | damageResult => exact kept.update (fun _ held => held) before
  | deathEvent => exact kept.update (fun _ held => held) before
  | _ => exact before

theorem applyMessage_distinct (backend : RemoteProxyBackend F U)
    (distinct : Slots.Distinct c.actors.slots) (type : MessageType) (body : Body F type) :
    Slots.Distinct (applyMessage backend type body c).2.actors.slots :=
  applyMessage_actorsKept backend (Slots.distinct_kept 128) (fun _ _ => trivial) distinct

theorem applyMessage_shown_other (backend : RemoteProxyBackend F U)
    (distinct : Slots.Distinct c.actors.slots) {type : MessageType} {body : Body F type}
    {v : ActorNetId} (other : aboutActor type body ≠ some v) :
    actorsShown (applyMessage backend type body c).2.actors v = actorsShown c.actors v := by
  cases about : aboutActor type body with
  | none => rw [applyMessage_actors backend about]
  | some id =>
      have apart : v ≠ id := fun same => other (same ▸ about)
      cases type with
      | actorSpawn =>
          obtain rfl := Option.some.inj about
          cases done : (applyMessage backend .actorSpawn body c).1 with
          | true => rw [applyActorSpawn_shown backend done, Function.update_of_ne apart]
          | false =>
              have same := (proxySpawnActor_refused done).1
              exact congrArg (actorsShown · v) same
      | actorState =>
          obtain rfl := Option.some.inj about
          cases known : actorsShown c.actors body.actorNetId with
          | some view => rw [applyActorState_known backend known, Function.update_of_ne apart]
          | none =>
              rcases applyActorState_unknown backend known with ⟨_, _, same⟩ | ⟨_, _, shown⟩
              · rw [same]
              · rw [shown, Function.update_of_ne apart]
      | actorDespawn =>
          obtain rfl := Option.some.inj about
          rw [applyActorDespawn_shown backend distinct, Function.update_of_ne apart]
      | damageResult =>
          obtain rfl := Option.some.inj about
          rw [applyDamageResult_shown backend, Function.update_of_ne apart]
      | deathEvent =>
          obtain rfl := Option.some.inj about
          rw [applyDeathEvent_shown backend, Function.update_of_ne apart]
      | _ => cases about

end Messages

end F4MP.Client

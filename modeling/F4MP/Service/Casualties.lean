import F4MP.Service.Network

/-!
# Casualties

An actor that is killed is marked by `ac_tick`, announced and removed in the next tick. Where no dead
actor was marked before, a tick clears the slots of exactly the dead actors, and announces each.
-/

namespace F4MP.Service
open SoftFloat Protocol MessageFlags

variable {F : Type}

/-! ## What a tick does to a slot -/

namespace ActorRuntimeState

def fallen (a : ActorRuntimeState F) : Bool := a.inUse && a.dead

def mark (a : ActorRuntimeState F) : ActorRuntimeState F :=
  if a.fallen then { a with pendingDespawn := true } else a

theorem mark_fallen (a : ActorRuntimeState F) : a.mark.fallen = a.fallen := by
  rw [mark]
  split <;> rfl

theorem mark_actorNetId (a : ActorRuntimeState F) : a.mark.actorNetId = a.actorNetId := by
  rw [mark]
  split <;> rfl

theorem mark_inUse (a : ActorRuntimeState F) : a.mark.inUse = a.inUse := by
  rw [mark]
  split <;> rfl

variable [CFloat F]

def bury (a : ActorRuntimeState F) : ActorRuntimeState F := if a.fallen then .zero else a

theorem bury_standing {a : ActorRuntimeState F} (standing : a.fallen = false) : a.bury = a := by
  rw [bury, standing]
  rfl

theorem bury_inUse {a : ActorRuntimeState F} (inUse : a.bury.inUse = true) :
    a.fallen = false ∧ a.bury = a := by
  cases standing : a.fallen with
  | true =>
      rw [bury, standing] at inUse
      cases inUse
  | false => exact ⟨rfl, bury_standing standing⟩

end ActorRuntimeState

/-- No dead actor was marked yet. -/
def Unmarked (s : SessionState F) : Prop :=
  ∀ a ∈ s.actors.slots, a.fallen = true → a.pendingDespawn = false

/-- The ids of the dead. -/
def fallenIds (s : SessionState F) : List ActorNetId :=
  (s.actors.slots.filter (·.fallen)).map (·.actorNetId)

section Tick
variable [CFloat F]

/-! ## Marking -/

/-- What the loop of `ac_tick` leaves of a slot. -/
def ActorRuntimeState.turn (a : ActorRuntimeState F) : ActorRuntimeState F :=
  if a.fallen && a.pendingDespawn then .zero else a.mark

omit [CFloat F] in
theorem modify_append_cons {α : Type} (front : List α) (a : α) (back : List α) (f : α → α) :
    (front ++ a :: back).modify front.length f = front ++ f a :: back := by
  induction front with
  | nil => rfl
  | cons b front ih => exact congrArg (b :: ·) ih

theorem modify_congr {α : Type} {l : List α} {i : Nat} {a : α} (at_ : l[i]? = some a)
    {f g : α → α} (same : f a = g a) : l.modify i f = l.modify i g := by
  refine List.ext_getElem? fun j => ?_
  rw [List.getElem?_modify, List.getElem?_modify]
  split
  · rename_i here
    subst here
    rw [at_]
    exact congrArg some same
  · rfl

theorem acTickSlot_slots {s : SessionState F} (distinct : Slots.Distinct s.actors.slots) {i : Nat}
    (inside : i < s.actors.slots.length) :
    (acTickSlot s i).actors.slots = s.actors.slots.modify i .turn := by
  have here : s.actors.slots[i]? = some s.actors.slots[i] := List.getElem?_eq_getElem inside
  generalize s.actors.slots[i] = a at here
  rw [acTickSlot, here]
  dsimp only
  cases dead : a.fallen with
  | false =>
      have standing : a.turn = a := by
        rw [ActorRuntimeState.turn, ActorRuntimeState.mark, dead]
        rfl
      rw [ActorRuntimeState.fallen] at dead
      rw [dead, if_neg Bool.false_ne_true, ← modify_congr (f := id) here standing.symm, List.modify_id]
  | true =>
      have live := dead
      rw [ActorRuntimeState.fallen] at live
      rw [live, if_pos rfl]
      cases marked : a.pendingDespawn with
      | true =>
          have gone : a.turn = .zero := by rw [ActorRuntimeState.turn, dead, marked]; rfl
          rw [if_pos rfl, ← modify_congr (f := fun _ => .zero) here gone.symm]
          exact (Slots.modify_holds distinct here (Bool.and_eq_true_iff.mp live).1 _).symm
      | false =>
          refine modify_congr here ?_
          rw [ActorRuntimeState.turn, ActorRuntimeState.mark, dead, marked]
          rfl

theorem ActorRuntimeState.turn_live {a : ActorRuntimeState F} (inUse : a.turn.inUse = true) :
    a.turn = a.mark ∧ (a.fallen = true → a.pendingDespawn = false) := by
  rw [turn] at inUse ⊢
  cases gone : a.fallen && a.pendingDespawn with
  | true =>
      rw [gone] at inUse
      cases inUse
  | false => exact ⟨rfl, fun dead => by rwa [dead, Bool.true_and] at gone⟩

theorem ActorRuntimeState.turn_keeps (a : ActorRuntimeState F) (inUse : a.turn.inUse = true) :
    a.inUse = true ∧ a.turn.actorNetId = a.actorNetId := by
  have same := (turn_live inUse).1
  rw [same] at inUse ⊢
  exact ⟨a.mark_inUse.symm.trans inUse, a.mark_actorNetId⟩

theorem acTick_slots {s : SessionState F} (distinct : Slots.Distinct s.actors.slots) :
    (acTick s).actors.slots = s.actors.slots.map .turn := by
  -- The loop has taken the slots behind it, and the records in use still have their own ids.
  have loop : ∀ n ≤ s.actors.slots.length,
      ((List.range n).foldl acTickSlot s).actors.slots =
        (s.actors.slots.take n).map .turn ++ s.actors.slots.drop n ∧
      Slots.Distinct ((List.range n).foldl acTickSlot s).actors.slots := by
    intro n
    induction n with
    | zero => exact fun _ => ⟨rfl, distinct⟩
    | succ n ih =>
        intro inside
        obtain ⟨before, apart⟩ := ih (Nat.le_of_succ_le inside)
        rw [List.range_succ, List.foldl_append, List.foldl_cons, List.foldl_nil]
        generalize (List.range n).foldl acTickSlot s = now at before apart
        have size : ((s.actors.slots.take n).map ActorRuntimeState.turn).length = n := by
          rw [List.length_map, List.length_take, Nat.min_eq_left (Nat.le_of_succ_le inside)]
        have here : n < now.actors.slots.length := by
          rw [before, List.length_append, size, List.length_drop]
          omega
        rw [acTickSlot_slots apart here]
        refine ⟨?_, apart.modify ActorRuntimeState.turn_keeps⟩
        rw [before, List.drop_eq_getElem_cons inside]
        have written := modify_append_cons ((s.actors.slots.take n).map ActorRuntimeState.turn)
          s.actors.slots[n] (s.actors.slots.drop (n + 1)) ActorRuntimeState.turn
        rw [size] at written
        rw [written, List.take_succ_eq_append_getElem inside, List.map_append, List.map_singleton,
          List.append_assoc, List.singleton_append]
  have done := (loop _ (Nat.le_refl _)).1
  rwa [List.take_length, List.drop_length, List.append_nil] at done

/-! ## Removing -/

theorem wsRemoveActors_slots {s : SessionState F} (distinct : Slots.Distinct s.actors.slots)
    (ids : List ActorNetId) : (ids.foldl wsRemoveActor s).actors.slots =
      s.actors.slots.map fun a => if a.inUse && decide (a.actorNetId ∈ ids) then .zero else a := by
  induction ids generalizing s with
  | nil => simp
  | cons id ids ih =>
      have removed : (wsRemoveActor s id).actors.slots =
          s.actors.slots.map fun a => if Slots.holds id a then .zero else a :=
        Slots.modifyFirst_holds distinct id _
      have distinct' : Slots.Distinct (wsRemoveActor s id).actors.slots :=
        distinct.release rfl
      rw [List.foldl_cons, ih distinct', removed, List.map_map]
      refine List.map_congr_left fun a _ => ?_
      have held : Slots.holds id a = (a.inUse && a.actorNetId == id) := rfl
      simp only [Function.comp_apply, held, List.mem_cons, Bool.decide_or]
      cases live : a.inUse with
      | false => simp [live]
      | true =>
          by_cases same : a.actorNetId = id
          · simp [same, ActorRuntimeState.zero]
          · simp [same, live]

/-! ## The tick -/

omit [CFloat F] in
theorem timedOutSession_actors (s : ServiceState F) :
    (timedOutSession s).actors = s.session.actors := by
  rw [timedOutSession, smRemovePlayers_frame]

/-- The dead of a session, if a tick can announce all of them. -/
structure Countable (s : SessionState F) : Prop where
  distinct : Slots.Distinct s.actors.slots
  unmarked : Unmarked s
  few : s.actors.slots.countP (·.fallen) ≤ 64

theorem markedSession_slots {s : ServiceState F}
    (distinct : Slots.Distinct s.session.actors.slots) :
    (markedSession s).actors.slots = s.session.actors.slots.map .turn := by
  rw [markedSession, acTick_slots (by rwa [timedOutSession_actors]), timedOutSession_actors]

theorem markedSession_actors {s : ServiceState F} (countable : Countable s.session) :
    (markedSession s).actors.slots = s.session.actors.slots.map (·.mark) := by
  rw [markedSession_slots countable.distinct]
  refine List.map_congr_left fun a member => ?_
  rw [ActorRuntimeState.turn]
  cases dead : a.fallen with
  | true => rw [countable.unmarked a member dead, Bool.and_false, if_neg Bool.false_ne_true]
  | false => rw [Bool.false_and, if_neg Bool.false_ne_true]

theorem actorsToDespawn_marked {s : ServiceState F} (countable : Countable s.session) :
    actorsToDespawn (markedSession s) = fallenIds s.session := by
  have chosen : ∀ a : ActorRuntimeState F,
      (a.mark.inUse && a.mark.pendingDespawn && a.mark.dead) = a.fallen := by
    intro a
    cases dead : a.fallen with
    | true =>
        have live := dead
        rw [ActorRuntimeState.fallen, Bool.and_eq_true] at live
        rw [ActorRuntimeState.mark, dead, if_pos rfl]
        exact Bool.and_eq_true_iff.mpr ⟨Bool.and_eq_true_iff.mpr ⟨live.1, rfl⟩, live.2⟩
    | false =>
        have live := dead
        rw [ActorRuntimeState.fallen, Bool.and_eq_false_iff] at live
        rw [ActorRuntimeState.mark, dead, if_neg Bool.false_ne_true]
        rcases live with unused | alive
        · rw [unused, Bool.false_and, Bool.false_and]
        · rw [alive, Bool.and_false]
  have short : (fallenIds s.session).length ≤ 64 := by
    rw [fallenIds, List.length_map, ← List.countP_eq_length_filter]
    exact countable.few
  rw [actorsToDespawn, markedSession_actors countable, List.filter_map, List.map_map]
  simp only [Function.comp_def, chosen, ActorRuntimeState.mark_actorNetId]
  exact List.take_of_length_le short

theorem tickSession_actors {s : ServiceState F} (countable : Countable s.session) :
    (tickSession s).actors.slots = s.session.actors.slots.map (·.bury) := by
  have marked : Slots.Distinct (markedSession s).actors.slots := by
    rw [markedSession_actors countable]
    exact countable.distinct.map fun a live => ⟨a.mark_inUse.symm.trans live, a.mark_actorNetId⟩
  rw [tickSession, wsRemoveActors_slots marked, actorsToDespawn_marked countable,
    markedSession_actors countable, List.map_map]
  refine List.map_congr_left fun a member => ?_
  simp only [Function.comp_apply, a.mark_inUse, a.mark_actorNetId]
  cases dead : a.fallen with
  | true =>
      have live := dead
      rw [ActorRuntimeState.fallen, Bool.and_eq_true] at live
      have listed : a.actorNetId ∈ fallenIds s.session :=
        List.mem_map_of_mem (List.mem_filter.mpr ⟨member, dead⟩)
      rw [ActorRuntimeState.bury, dead, live.1, decide_eq_true listed]
      rfl
  | false =>
      have same : a.mark = a := by rw [ActorRuntimeState.mark, dead, if_neg Bool.false_ne_true]
      rw [ActorRuntimeState.bury_standing dead, same]
      refine if_neg fun gone => ?_
      -- A dead actor with the id of this one would be this one.
      rw [Bool.and_eq_true, decide_eq_true_eq] at gone
      obtain ⟨b, listed, id⟩ := List.mem_map.mp gone.2
      obtain ⟨memberB, deadB⟩ := List.mem_filter.mp listed
      have liveB := deadB
      rw [ActorRuntimeState.fallen, Bool.and_eq_true] at liveB
      have foundA := Slots.lookup_of_mem countable.distinct member gone.1
      have foundB := Slots.lookup_of_mem countable.distinct memberB liveB.1
      have key : Slots.Slot.key b = Slots.Slot.key a := id
      rw [key] at foundB
      obtain rfl := Option.some.inj (foundA.symm.trans foundB)
      rw [dead] at deadB
      cases deadB

/-! ## Envelopes -/

/-- What a message does to the actors: nothing, or it hits one that is alive. -/
inductive Struck (slots : List (ActorRuntimeState F)) : List (ActorRuntimeState F) → Prop where
  | missed : Struck slots slots
  | hit {i : Nat} {target : ActorRuntimeState F} (at_ : slots[i]? = some target)
      (inUse : target.inUse = true) (alive : target.dead = false) :
      Struck slots (slots.modify i .hit)

theorem Outcome.struck [WireFloat F] {store : ProfileStore} {env : TransportEnvelope}
    {s after : ServiceState F} {posts : List (Post F)} {ok : Bool}
    (outcome : Outcome store env s posts (ok, after)) :
    Struck s.session.actors.slots after.session.actors.slots := by
  cases outcome with
  | ignored => exact .missed
  | seated _ takes =>
      obtain ⟨_, _, _, rfl⟩ := takeSeat_frame takes
      exact .missed
  | kept => exact .missed
  | left => exact .missed
  | hit _ at_ inUse alive _ shot => subst shot; exact .hit at_ inUse alive
  | refused => exact .missed
  | built _ _ _ placed => subst placed; exact .missed
  | moved _ changed => subst changed; exact .missed
  | scrapped _ removed => subst removed; exact .missed
  | selected applied =>
      obtain ⟨_, rfl⟩ := dspApplySelection_frame applied
      exact .missed

theorem Outcome.unhandled_actors [WireFloat F] {store : ProfileStore} {env : TransportEnvelope}
    {s after : ServiceState F} {posts : List (Post F)}
    (outcome : Outcome store env s posts (false, after)) :
    after.session.actors = s.session.actors := by
  cases outcome with
  | ignored => rfl
  | seated _ takes =>
      obtain ⟨_, _, _, rfl⟩ := takeSeat_frame takes
      rfl
  | kept => rfl

theorem Struck.slot {slots after : List (ActorRuntimeState F)} (struck : Struck slots after)
    {i : Nat} {a : ActorRuntimeState F} (at_ : slots[i]? = some a) :
    ∃ b, after[i]? = some b ∧ b.inUse = a.inUse ∧ b.actorNetId = a.actorNetId := by
  cases struck with
  | missed => exact ⟨a, at_, rfl, rfl⟩
  | @hit j =>
      refine ⟨_, by rw [List.getElem?_modify, at_]; rfl, ?_⟩
      split <;> exact ⟨rfl, rfl⟩

/-- The actors in use have their own ids, and none is marked. -/
structure Fresh (s : SessionState F) : Prop where
  distinct : Slots.Distinct s.actors.slots
  unmarked : ∀ a ∈ s.actors.slots, a.inUse = true → a.pendingDespawn = false

/-- No actor in use is dead either. -/
structure Standing (s : SessionState F) : Prop where
  fresh : Fresh s
  alive : ∀ a ∈ s.actors.slots, a.fallen = false

omit [CFloat F] in
theorem Fresh.countable {s : SessionState F} (fresh : Fresh s)
    (few : s.actors.slots.countP (·.fallen) ≤ 64) : Countable s where
  distinct := fresh.distinct
  unmarked a member dead := fresh.unmarked a member (Bool.and_eq_true_iff.mp dead).1
  few := few

theorem Fresh.tick {s : ServiceState F} (fresh : Fresh s.session)
    (few : s.session.actors.slots.countP (·.fallen) ≤ 64) : Standing (tickSession s) := by
  have buried := tickSession_actors (fresh.countable few)
  have left : ∀ a ∈ (tickSession s).actors.slots, a.inUse = true →
      a ∈ s.session.actors.slots ∧ a.fallen = false := by
    intro a member inUse
    rw [buried] at member
    obtain ⟨b, listed, rfl⟩ := List.mem_map.mp member
    obtain ⟨standing, same⟩ := ActorRuntimeState.bury_inUse inUse
    rw [same]
    exact ⟨listed, standing⟩
  refine ⟨⟨?_, fun a member inUse => fresh.unmarked a (left a member inUse).1 inUse⟩,
    fun a member => ?_⟩
  · rw [buried]
    refine fresh.distinct.map fun a live => ?_
    have same := (ActorRuntimeState.bury_inUse live).2
    rw [same] at live ⊢
    exact ⟨live, rfl⟩
  · cases inUse : a.inUse with
    | true => exact (left a member inUse).2
    | false => rw [ActorRuntimeState.fallen, inUse, Bool.false_and]

theorem mem_modify {α : Type} {l : List α} {i : Nat} {f : α → α} {a : α}
    (member : a ∈ l.modify i f) : a ∈ l ∨ ∃ b ∈ l, a = f b := by
  obtain ⟨j, at_⟩ := List.mem_iff_getElem?.mp member
  rw [List.getElem?_modify] at at_
  obtain ⟨b, before, eq⟩ := Option.map_eq_some_iff.mp at_
  have listed := List.mem_of_getElem? before
  split at eq
  · exact .inr ⟨b, listed, eq.symm⟩
  · exact .inl (eq ▸ listed)

theorem countP_modify_le {α : Type} (p : α → Bool) (l : List α) (i : Nat) (f : α → α) :
    (l.modify i f).countP p ≤ l.countP p + 1 := by
  induction l generalizing i with
  | nil => simp
  | cons a l ih =>
      cases i with
      | zero =>
          rw [List.modify_zero_cons, List.countP_cons, List.countP_cons]
          split <;> split <;> omega
      | succ i =>
          have rest := ih i
          rw [List.modify_succ_cons, List.countP_cons, List.countP_cons]
          omega

theorem Struck.kept {slots after : List (ActorRuntimeState F)} (struck : Struck slots after)
    {a : ActorRuntimeState F} (member : a ∈ after) : a ∈ slots ∨ ∃ b ∈ slots, a = b.hit := by
  cases struck with
  | missed => exact .inl member
  | hit => exact mem_modify member

theorem Struck.fresh {s after : SessionState F} (fresh : Fresh s)
    (struck : Struck s.actors.slots after.actors.slots) : Fresh after := by
  suffices kept : Slots.Distinct after.actors.slots ∧
      ∀ a ∈ after.actors.slots, a.inUse = true → a.pendingDespawn = false from ⟨kept.1, kept.2⟩
  generalize after.actors.slots = slots at struck ⊢
  cases struck with
  | missed => exact ⟨fresh.distinct, fresh.unmarked⟩
  | hit =>
      refine ⟨fresh.distinct.modify fun a live => ⟨live, rfl⟩, fun a member inUse => ?_⟩
      rcases mem_modify member with old | ⟨b, old, rfl⟩
      · exact fresh.unmarked a old inUse
      · exact fresh.unmarked b old inUse

theorem Struck.few {s after : SessionState F} (alive : ∀ a ∈ s.actors.slots, a.fallen = false)
    (struck : Struck s.actors.slots after.actors.slots) :
    after.actors.slots.countP (·.fallen) ≤ 1 := by
  have none : s.actors.slots.countP (·.fallen) = 0 :=
    List.countP_eq_zero.mpr fun a member => by simp [alive a member]
  generalize after.actors.slots = slots at struck
  cases struck with
  | missed => omega
  | @hit i =>
      have one := countP_modify_le (·.fallen) s.actors.slots i .hit
      omega

end Tick

end F4MP.Service

import F4MP.Service.Timeouts
import F4MP.Service.Selection

/-!
# Activity

Each handler notes by itself when a player was heard. Three of them do not, and a HELLO notes it for
the slot of its GUID, which the connection need not be resolved to.
-/

namespace F4MP.Service
open SoftFloat Protocol Transition MessageFlags

variable {F : Type}

/-! ## Who is heard -/

/-- The player that the connection is resolved to was heard in this tick. -/
def HeardNow (s : ServiceState F) (connectionId : UInt32) : Prop :=
  ∀ p ∈ tlFindPlayerByConnection s.session connectionId, p.lastHeardTick = s.ctx.currentTick

/-- The messages whose handlers do not note the tick. -/
def Unnoted (type : MessageType) : Prop :=
  type = .objectMoveReq ∨ type = .objectScrapReq ∨ type = .dialogueSelect

/-- A player whose message is not noted, or who says HELLO under a GUID with a higher slot, was heard
in this tick already. -/
structure HeardAlready [WireFloat F] (s : ServiceState F) (env : TransportEnvelope) : Prop where
  unnoted : ∀ type, Unnoted type → ∀ msg : Body F type, Carries env.bytes type msg →
    HeardNow s env.connectionId
  hello : ∀ names ∈ helloOf? env.bytes, ∀ id ∈ s.seatFor names.1,
    ∀ p ∈ tlFindPlayerByConnection s.session env.connectionId, p.playerId < id →
      p.lastHeardTick = s.ctx.currentTick

section Resolving
variable {s after : ServiceState F} {connectionId : UInt32} {player : PlayerRuntimeState F}

theorem HeardNow.of_same (heard : HeardNow s connectionId)
    (players : after.session.players = s.session.players)
    (clock : after.ctx.currentTick = s.ctx.currentTick) : HeardNow after connectionId := by
  rw [HeardNow, tlFindPlayerByConnection, players, clock]
  exact heard

theorem tlFindPlayerByConnection_get
    (byConnection : tlFindPlayerByConnection s.session connectionId = some player) :
    ∃ k : Nat, s.session.players.slots[k]? = some player ∧ player.connected = true ∧
      player.connectionId = connectionId ∧ (s.session.players.slots.take k).find?
        (fun p => p.connected && p.connectionId == connectionId) = none := by
  obtain ⟨hit, k, inside, here, before⟩ := List.find?_eq_some_iff_getElem.mp byConnection
  obtain ⟨connected, same⟩ := Bool.and_eq_true_iff.mp hit
  refine ⟨k, (List.getElem?_eq_getElem inside).trans (congrArg some here), connected,
    beq_iff_eq.mp same, List.find?_eq_none.mpr fun p listed found => ?_⟩
  obtain ⟨j, below, rfl⟩ := List.mem_take_iff_getElem.mp listed
  have other := before j (by omega)
  rw [found] at other
  cases other

theorem tlFindPlayerByConnection_updatePlayer (placed : Placed s.session.seats)
    (byConnection : tlFindPlayerByConnection s.session connectionId = some player)
    {f : PlayerRuntimeState F → PlayerRuntimeState F} (keeps : ∀ p, (f p).seat = p.seat) :
    tlFindPlayerByConnection (updatePlayer s.session player.playerId f) connectionId =
      some (f player) := by
  obtain ⟨k, at_, connected, named, before⟩ := tlFindPlayerByConnection_get byConnection
  have inside := (List.getElem?_eq_some_iff.mp at_).1
  have hit : ((f player).connected && (f player).connectionId == connectionId) = true := by
    have seat := keeps player
    rw [show (f player).connected = player.connected from congrArg Seat.connected seat,
      show (f player).connectionId = player.connectionId from congrArg Seat.connectionId seat,
      connected, named, beq_self_eq_true]
    rfl
  rw [tlFindPlayerByConnection, placed.updatePlayer_slots at_ connected,
    Slots.find?_set inside hit, before]
  rfl

theorem take_find?_iff (placed : Placed s.session.seats) {id : PlayerId} :
    (s.session.players.slots.take (id.toNat - 1)).find?
        (fun p => p.connected && p.connectionId == connectionId) = some player ↔
      tlFindPlayerByConnection s.session connectionId = some player ∧ player.playerId < id := by
  have whole := @List.find?_append _ (fun p => p.connected && p.connectionId == connectionId)
    (s.session.players.slots.take (id.toNat - 1)) (s.session.players.slots.drop (id.toNat - 1))
  rw [List.take_append_drop] at whole
  rw [tlFindPlayerByConnection, whole, UInt16.lt_iff_toNat_lt]
  constructor
  · intro found
    obtain ⟨j, below, here⟩ := List.mem_take_iff_getElem.mp (List.mem_of_find?_eq_some found)
    have at_ : s.session.players.slots[j]? = some player :=
      (List.getElem?_eq_getElem (by omega)).trans (congrArg some here)
    have hit := List.find?_some found
    have connected := (Bool.and_eq_true_iff.mp hit).1
    have index := (placed.connected_index (seats_get at_) connected).1
    simp only [PlayerRuntimeState.seat] at index
    rw [found]
    exact ⟨rfl, by omega⟩
  · rintro ⟨found, below⟩
    cases first : (s.session.players.slots.take (id.toNat - 1)).find?
        fun p => p.connected && p.connectionId == connectionId with
    | some q =>
        rw [first] at found
        exact found
    | none =>
        rw [first, Option.none_or] at found
        obtain ⟨j, at_⟩ := List.mem_iff_getElem?.mp (List.mem_of_find?_eq_some found)
        rw [List.getElem?_drop] at at_
        have hit := List.find?_some found
        have connected := (Bool.and_eq_true_iff.mp hit).1
        have index := (placed.connected_index (seats_get at_) connected).1
        simp only [PlayerRuntimeState.seat] at index
        omega

end Resolving

/-! ## Envelopes -/

section Envelopes
variable [CFloat F] [WireFloat F] {store : ProfileStore} {env : TransportEnvelope}
  {s after : ServiceState F} {posts : List (Post F)}

omit [CFloat F] in
theorem post_clock (s : ServiceState F) (posts : List (Post F)) :
    (s.post posts).ctx.currentTick = s.ctx.currentTick := by
  obtain ⟨_, _, sent⟩ := post_frame s posts
  rw [sent]

theorem Outcome.clock {result : Bool × ServiceState F}
    (outcome : Outcome store env s posts result) :
    result.2.ctx.currentTick = s.ctx.currentTick := by
  cases outcome with
  | ignored => rfl
  | seated _ takes =>
      obtain ⟨_, _, _, rfl⟩ := takeSeat_frame takes
      exact post_clock _ posts
  | kept => exact post_clock _ posts
  | left => exact post_clock _ posts
  | hit => exact post_clock _ posts
  | refused => exact post_clock _ posts
  | built => exact post_clock _ posts
  | moved => exact post_clock _ posts
  | scrapped => exact post_clock _ posts
  | selected => rfl

omit [CFloat F] in
theorem OwnWrite.hears {player : PlayerRuntimeState F}
    {f : PlayerRuntimeState F → PlayerRuntimeState F} (wrote : OwnWrite env s player f posts)
    (p : PlayerRuntimeState F) : (f p).lastHeardTick = s.ctx.currentTick := by
  cases wrote <;> rfl

omit [CFloat F] [WireFloat F] in
theorem HeardNow.updatePlayer (placed : Placed s.session.seats) {player : PlayerRuntimeState F}
    (byConnection : tlFindPlayerByConnection s.session env.connectionId = some player)
    {f : PlayerRuntimeState F → PlayerRuntimeState F} (keeps : ∀ p, (f p).seat = p.seat)
    (hears : ∀ p, (f p).lastHeardTick = s.ctx.currentTick)
    (players : after.session.players = (Service.updatePlayer s.session player.playerId f).players)
    (clock : after.ctx.currentTick = s.ctx.currentTick) : HeardNow after env.connectionId := by
  have resolved := tlFindPlayerByConnection_updatePlayer placed byConnection keeps
  intro p found
  rw [tlFindPlayerByConnection, players] at found
  obtain rfl := Option.some.inj (resolved.symm.trans found)
  exact (hears player).trans clock.symm

omit [WireFloat F] in
theorem heardNow_fillSeat {playerGuid playerName : Text} {id : PlayerId} {taken : ServiceState F}
    (aligned : Aligned s.roster)
    (takes : takeSeat s playerGuid env.connectionId = some (id, taken))
    (players : after.session.players =
      (fillSeat store playerGuid playerName env.connectionId id taken).session.players)
    (clock : after.ctx.currentTick = s.ctx.currentTick) : HeardNow after env.connectionId ↔
      ∀ p ∈ tlFindPlayerByConnection s.session env.connectionId, p.playerId < id →
        p.lastHeardTick = s.ctx.currentTick := by
  obtain ⟨slot, takesSlot, _, slots⟩ := fillSeat_slots store aligned playerName takes
  have placed : Placed s.session.seats := aligned.placed
  have given := takeSeat_seatFor aligned takes
  rw [seatFor_roster] at given
  obtain ⟨low, high⟩ := aligned.seatFor given
  have inside : id.toNat - 1 < s.session.players.slots.length := by
    rw [s.session.players.size, maxPlayersPerSession]
    omega
  have hit : ((fillSlot store playerGuid playerName env.connectionId taken.ctx.currentTick
      slot).connected && (fillSlot store playerGuid playerName env.connectionId
        taken.ctx.currentTick slot).connectionId == env.connectionId) = true := by
    rw [show (fillSlot store playerGuid playerName env.connectionId taken.ctx.currentTick
      slot).connected = slot.connected from rfl, takesSlot.seated.1]
    exact beq_self_eq_true env.connectionId
  have noted : taken.ctx.currentTick = s.ctx.currentTick := by
    obtain ⟨_, _, _, rfl⟩ := takeSeat_frame takes
    rfl
  have resolved : tlFindPlayerByConnection after.session env.connectionId =
      some (((s.session.players.slots.take (id.toNat - 1)).find? fun p =>
        p.connected && p.connectionId == env.connectionId).getD
          (fillSlot store playerGuid playerName env.connectionId taken.ctx.currentTick slot)) := by
    rw [tlFindPlayerByConnection, players, slots]
    exact Slots.find?_set inside hit
  have below (p : PlayerRuntimeState F) := @take_find?_iff F s env.connectionId p placed id
  constructor
  · intro heard p found lower
    have heard := heard _ resolved
    rw [(below p).mpr ⟨found, lower⟩, Option.getD_some] at heard
    exact heard.trans clock
  · intro lower p found
    obtain rfl := Option.some.inj (resolved.symm.trans found)
    rw [clock]
    cases first : (s.session.players.slots.take (id.toNat - 1)).find? fun p =>
        p.connected && p.connectionId == env.connectionId with
    | none => exact noted
    | some q =>
        obtain ⟨resolvedTo, less⟩ := (below q).mp first
        exact lower q resolvedTo less

theorem Outcome.heardNow (outcome : Outcome store env s posts (true, after))
    (aligned : Aligned s.roster) (already : HeardAlready s env)
    (stays : ¬ ∃ msg, Carries (F := F) env.bytes .disconnect msg) :
    HeardNow after env.connectionId := by
  have placed : Placed s.session.seats := aligned.placed
  have clock := outcome.clock
  cases outcome with
  | @seated playerGuid playerName id taken _ _ _ hello takes =>
      have players := congrArg SessionState.players
        (post_session (fillSeat store playerGuid playerName env.connectionId id taken) posts)
      refine (heardNow_fillSeat aligned takes players clock).mpr ?_
      exact already.hello _ hello _ (takeSeat_seatFor aligned takes)
  | kept byConnection keeps _ _ wrote =>
      exact .updatePlayer placed byConnection keeps wrote.hears rfl clock
  | left _ _ carries => exact absurd carries stays
  | hit byConnection _ _ _ _ shot =>
      subst shot
      exact .updatePlayer placed (f := hear s.ctx.currentTick) byConnection (fun _ => rfl)
        (fun _ => rfl) rfl clock
  | refused byConnection =>
      exact .updatePlayer placed (f := hear s.ctx.currentTick) byConnection (fun _ => rfl)
        (fun _ => rfl) rfl clock
  | built _ byConnection _ built =>
      subst built
      exact .updatePlayer placed (f := hear s.ctx.currentTick) byConnection (fun _ => rfl)
        (fun _ => rfl) rfl clock
  | moved _ changed _ _ carries =>
      subst changed
      exact (already.unnoted _ (.inl rfl) _ carries).of_same rfl clock
  | scrapped _ removed _ _ carries =>
      subst removed
      exact (already.unnoted _ (.inr (.inl rfl)) _ carries).of_same rfl clock
  | selected applied _ _ carries =>
      obtain ⟨_, rfl⟩ := dspApplySelection_frame applied
      exact (already.unnoted _ (.inr (.inr rfl)) _ carries).of_same rfl clock

theorem tlHandleEnvelope_unnoted {type : MessageType} (unnoted : Unnoted type) {msg : Body F type}
    (carries : Carries env.bytes type msg) :
    (tlHandleEnvelope store env s).2.session.players = s.session.players := by
  have notHello : type ≠ .hello := by
    rcases unnoted with rfl | rfl | rfl <;> exact fun same => by cases same
  obtain ⟨sequence, r, r', decoded, ends⟩ := tlHandleEnvelope_carries store carries notHello s
  rw [ends]
  cases tlFindPlayerByConnection s.session env.connectionId with
  | none => rfl
  | some player =>
      rcases unnoted with rfl | rfl | rfl
      · simp only [tlHandlePlayerMessage, tlHandleObjectMoveReq]
        split
        · rfl
        · split
          · rfl
          · split
            · rfl
            · rename_i applied
              obtain ⟨_, _, rfl⟩ := acHandleObjectMove_cases applied
              split <;> rfl
      · simp only [tlHandlePlayerMessage, tlHandleObjectScrapReq]
        split
        · rfl
        · split
          · rfl
          · split
            · rfl
            · rename_i applied
              obtain ⟨_, _, _, rfl⟩ := acHandleObjectScrap_cases applied
              rfl
      · simp only [tlHandlePlayerMessage, tlHandleDialogueSelect]
        split
        · rfl
        · split
          · rfl
          · rename_i applied
            obtain ⟨_, rfl⟩ := dspApplySelection_frame applied
            rfl

variable [LawfulWireFloat F]

theorem tlHandleEnvelope_clock (store : ProfileStore) (env : TransportEnvelope)
    (s : ServiceState F) : (tlHandleEnvelope store env s).2.ctx.currentTick = s.ctx.currentTick := by
  obtain ⟨sequence, posts, outcome⟩ := tlHandleEnvelope_outcome store env s
  exact outcome.clock

/-- An envelope that is handled and does not disconnect is heard if and only if it is noted or was
heard already. -/
theorem heardNow_iff (aligned : Aligned s.roster)
    (handled : (tlHandleEnvelope store env s).1 = true)
    (stays : ¬ ∃ msg, Carries (F := F) env.bytes .disconnect msg) :
    HeardNow (tlHandleEnvelope store env s).2 env.connectionId ↔ HeardAlready s env := by
  constructor
  · intro heard
    refine ⟨fun type unnoted msg carries => ?_, fun names hello id given => ?_⟩
    · have players : (tlHandleEnvelope store env s).2.session.players = s.session.players :=
        tlHandleEnvelope_unnoted unnoted carries
      exact heard.of_same players.symm (tlHandleEnvelope_clock store env s).symm
    · obtain ⟨sequence, id', taken, slot, takes, found, after⟩ :=
        tlHandleEnvelope_accepted hello handled
      have seated := takeSeat_seatFor (s := received s sequence) aligned takes
      obtain rfl := Option.some.inj (given.symm.trans seated)
      have clock := tlHandleEnvelope_clock store env s
      have players : (tlHandleEnvelope store env s).2.session.players =
          (fillSeat store names.1 names.2 env.connectionId id taken).session.players := by
        rw [after, post_session]
      exact (heardNow_fillSeat (s := received s sequence) aligned takes players clock).mp heard
  · intro already
    obtain ⟨sequence, posts, outcome⟩ := tlHandleEnvelope_outcome store env s
    rw [show tlHandleEnvelope store env s = (true, (tlHandleEnvelope store env s).2) from
      Prod.ext handled rfl] at outcome
    exact outcome.heardNow (s := received s sequence) aligned
      ⟨already.unnoted, already.hello⟩ stays

end Envelopes

/-! ## Ages -/

/-- The player in the slot was heard at most this many ticks ago. -/
def HeardWithin (s : ServiceState F) (k n : Nat) : Prop :=
  ∀ p ∈ s.session.players.slots[k]?, (s.ctx.currentTick - p.lastHeardTick).toNat ≤ n

def ServiceEvent.isTick : ServiceEvent F → Bool
  | .tick => true
  | _ => false

section Ages
variable [CFloat F] [WireFloat F] {s after : ServiceState F} {k n : Nat}

theorem lastHeard_later (now before : UInt32) : now + 1 - before = now - before + 1 := by
  rw [UInt32.sub_eq_add_neg, UInt32.sub_eq_add_neg, UInt32.add_assoc, UInt32.add_assoc,
    UInt32.add_comm 1]

omit [CFloat F] [WireFloat F] in
theorem HeardWithin.of_slots (within : HeardWithin s k n)
    (clock : after.ctx.currentTick = s.ctx.currentTick)
    (slots : ∀ p ∈ after.session.players.slots[k]?, p.lastHeardTick = s.ctx.currentTick ∨
      ∃ q ∈ s.session.players.slots[k]?, p.lastHeardTick = q.lastHeardTick) :
    HeardWithin after k n := by
  intro p at_
  rw [clock]
  rcases slots p at_ with now | ⟨q, before, same⟩
  · rw [now, UInt32.sub_self]
    exact Nat.zero_le n
  · rw [same]
    exact within q before

omit [CFloat F] [WireFloat F] in
theorem HeardWithin.of_same (within : HeardWithin s k n)
    (clock : after.ctx.currentTick = s.ctx.currentTick)
    (players : after.session.players = s.session.players) : HeardWithin after k n :=
  within.of_slots clock fun p at_ => .inr ⟨p, players ▸ at_, rfl⟩

omit [CFloat F] [WireFloat F] in
theorem updatePlayer_hears {id : PlayerId} {f : PlayerRuntimeState F → PlayerRuntimeState F}
    (hears : ∀ p, (f p).lastHeardTick = s.ctx.currentTick) :
    ∀ p ∈ (updatePlayer s.session id f).players.slots[k]?,
      p.lastHeardTick = s.ctx.currentTick ∨
        ∃ q ∈ s.session.players.slots[k]?, p.lastHeardTick = q.lastHeardTick := by
  intro p at_
  rcases Slots.getElem?_modifyFirst (p := fun p : PlayerRuntimeState F =>
    p.connected && p.playerId == id) (f := f) s.session.players.slots k with
    same | ⟨q, _, _, written⟩
  · exact .inr ⟨p, same ▸ at_, rfl⟩
  · obtain rfl := Option.some.inj (written.symm.trans at_)
    exact .inl (hears q)

theorem Outcome.heardWithin {store : ProfileStore} {env : TransportEnvelope}
    {posts : List (Post F)} {result : Bool × ServiceState F}
    (outcome : Outcome store env s posts result) (aligned : Aligned s.roster)
    (within : HeardWithin s k n) : HeardWithin result.2 k n := by
  have clock := outcome.clock
  have noted (id : PlayerId) : ∀ p ∈ (heard s id).session.players.slots[k]?,
      p.lastHeardTick = s.ctx.currentTick ∨
        ∃ q ∈ s.session.players.slots[k]?, p.lastHeardTick = q.lastHeardTick :=
    updatePlayer_hears fun _ => rfl
  cases outcome with
  | ignored => exact within
  | @seated playerGuid playerName id taken _ _ _ _ takes =>
      obtain ⟨slot, _, _, slots⟩ := fillSeat_slots store aligned playerName takes
      obtain ⟨_, _, _, frame⟩ := takeSeat_frame takes
      refine within.of_slots clock fun p at_ => ?_
      rw [post_session, slots, List.getElem?_set] at at_
      split at at_
      · split at at_
        · obtain rfl := Option.some.inj at_
          rw [frame]
          exact .inl rfl
        · cases at_
      · exact .inr ⟨p, at_, rfl⟩
  | kept _ _ _ _ wrote => exact within.of_slots clock (updatePlayer_hears wrote.hears)
  | @left player =>
      refine within.of_slots clock fun p at_ => ?_
      rcases Slots.getElem?_modifyFirst (p := fun p : PlayerRuntimeState F =>
        p.playerId == player.playerId) (f := PlayerRuntimeState.leave)
        (heard s player.playerId).session.players.slots k with same | ⟨q, before, _, written⟩
      · exact noted player.playerId p (same ▸ at_)
      · obtain rfl := Option.some.inj (written.symm.trans at_)
        exact noted player.playerId q before
  | hit _ _ _ _ _ shot =>
      subst shot
      exact within.of_slots clock (noted _)
  | refused => exact within.of_slots clock (noted _)
  | built _ _ _ built =>
      subst built
      exact within.of_slots clock (noted _)
  | moved _ changed =>
      subst changed
      exact within.of_same clock rfl
  | scrapped _ removed =>
      subst removed
      exact within.of_same clock rfl
  | selected applied =>
      obtain ⟨_, rfl⟩ := dspApplySelection_frame applied
      exact within.of_same clock rfl

omit [CFloat F] [WireFloat F] in
theorem hostStep_clock (s : ServiceState F) (event : HostEvent) :
    (hostStep s event).ctx.currentTick = s.ctx.currentTick := by
  obtain ⟨_, _, sent⟩ := hostStep_sends s event
  rw [sent]

variable [LawfulWireFloat F]

/-- Nothing but a tick makes a player older, and a tick makes it older by one. -/
theorem serviceStep_heardWithin (aligned : Aligned s.roster) (within : HeardWithin s k n)
    (e : ServiceEvent F) : HeardWithin (serviceStep s e) k (n + if e.isTick then 1 else 0) := by
  have unhurried : ∀ after : ServiceState F, after.ctx.currentTick = s.ctx.currentTick →
      after.session.players = s.session.players → HeardWithin after k (n + 0) :=
    fun after clock players => within.of_same clock players
  cases e with
  | envelope store env =>
      obtain ⟨sequence, posts, outcome⟩ := tlHandleEnvelope_outcome store env s
      exact outcome.heardWithin aligned within
  | tick =>
      intro p at_
      rw [serviceStep, tlTick_slots aligned, List.getElem?_map] at at_
      obtain ⟨q, before, rfl⟩ := Option.map_eq_some_iff.mp at_
      have same : (if q.connected && late s q then q.leave else q).lastHeardTick =
          q.lastHeardTick := by split <;> rfl
      have bound := within q before
      rw [serviceStep, tlTick_clock, same, lastHeard_later, UInt32.toNat_add]
      exact (Nat.mod_le _ _).trans (Nat.add_le_add_right bound 1)
  | popDialogueSelect =>
      refine unhurried _ ?_ ?_ <;>
      · obtain ⟨_, _, _, frame⟩ := popDialogueSelect_frame s
        rw [frame]
  | spawnHostile baseFormId position =>
      refine unhurried _ rfl ?_
      obtain ⟨_, frame⟩ := spawnHostile_frame s baseFormId position
      rw [frame]
  | allocSettlement settlementId center radius budget =>
      refine unhurried _ rfl ?_
      obtain ⟨_, frame⟩ := allocSettlement_frame s settlementId center radius budget
      rw [frame]
  | host event => exact unhurried _ (hostStep_clock s event) (hostStep_players s event).1
  | _ => exact unhurried _ rfl rfl

theorem run_heardWithin {events : List (ServiceEvent F)} (aligned : Aligned s.roster)
    (within : HeardWithin s k n) :
    HeardWithin (run serviceStep s events) k (n + events.countP (·.isTick)) ∧
      Aligned (run serviceStep s events).roster := by
  induction events generalizing s n with
  | nil => exact ⟨within, aligned⟩
  | cons e rest ih =>
      have next := ih (serviceStep_aligned aligned e) (serviceStep_heardWithin aligned within e)
      rw [List.countP_cons, Nat.add_comm (rest.countP _), ← Nat.add_assoc]
      exact next

omit [LawfulWireFloat F] in
theorem tlTick_keeps (aligned : Aligned s.roster) (within : HeardWithin s k n)
    (young : n + 1 ≤ s.ctx.playerTimeoutTicks.toNat) :
    (tlTick s).session.players.slots[k]? = s.session.players.slots[k]? := by
  rw [tlTick_slots aligned, List.getElem?_map]
  cases at_ : s.session.players.slots[k]? with
  | none => rfl
  | some p =>
      have bound := within p at_
      have inTime : late s p = false := by
        rw [late, decide_eq_false_iff_not, lastHeard_later]
        rintro ⟨_, tooLate⟩
        have next := Nat.mod_le ((s.ctx.currentTick - p.lastHeardTick).toNat + 1) (2 ^ 32)
        rw [UInt32.lt_iff_toNat_lt, UInt32.toNat_add] at tooLate
        have sooner := tooLate.trans_le (next.trans (Nat.add_le_add_right bound 1))
        omega
      rw [Option.map_some, inTime, Bool.and_false, if_neg Bool.false_ne_true]

/-- Of every envelope that is handled in a reachable state and does not disconnect: the player that its
connection is resolved to has then been heard in this tick exactly if the message is noted, or the
player was heard already; and if so, no tick among the next `player_timeout_ticks` ones times that
player out. -/
theorem heard_iff (s : ServiceState F) (reachable : Reachable s) (store : ProfileStore)
    (env : TransportEnvelope) (handled : (tlHandleEnvelope store env s).1 = true)
    (stays : ¬ ∃ msg, Carries (F := F) env.bytes .disconnect msg) :
    (HeardNow (tlHandleEnvelope store env s).2 env.connectionId ↔ HeardAlready s env) ∧
      (HeardAlready s env → ∀ (k : Nat) (p : PlayerRuntimeState F),
        (tlHandleEnvelope store env s).2.session.players.slots[k]? = some p →
        tlFindPlayerByConnection (tlHandleEnvelope store env s).2.session env.connectionId =
          some p →
        ∀ events : List (ServiceEvent F),
          let late := run serviceStep (tlHandleEnvelope store env s).2 events
          events.countP (·.isTick) + 1 ≤ late.ctx.playerTimeoutTicks.toNat →
            (tlTick late).session.players.slots[k]? = late.session.players.slots[k]?) := by
  have aligned := reachable.aligned
  have alignedAfter : Aligned (tlHandleEnvelope store env s).2.roster :=
    serviceStep_aligned aligned (.envelope store env)
  have iff := heardNow_iff aligned handled stays
  refine ⟨iff, fun already k p at_ resolved events => ?_⟩
  intro now inTime
  have within : HeardWithin (tlHandleEnvelope store env s).2 k 0 := by
    intro q here
    obtain rfl := Option.some.inj (at_.symm.trans here)
    rw [iff.mpr already p resolved, UInt32.sub_self]
    exact Nat.le_refl 0
  obtain ⟨still, alignedThen⟩ := run_heardWithin alignedAfter within
  rw [Nat.zero_add] at still
  exact tlTick_keeps alignedThen still inTime

end Ages

/-! ## A player who only talks -/

/-- The service has a timeout of two ticks, a player who said HELLO in tick 0, and a choice. -/
def talkEvents : List (ServiceEvent Binary32) :=
  let store : ProfileStore := ⟨fun _ => none⟩
  [.setPlayerTimeoutTicks 2,
    .envelope store (envelopeOf (F := Binary32) 100 .hello (⟨0, 0⟩, [0x41], [])),
    .host (.dialogueOpen 5 7 8), .host (.dialogueChoices 5 [⟨7, 1, {}⟩] none 1),
    .clearOutputs, .tick, .tick]

def talkService : ServiceState Binary32 := run serviceStep (freshService 1 15 20 []) talkEvents

theorem talkService_reachable : Reachable talkService := ⟨1, 15, 20, [], talkEvents, rfl⟩

theorem heard_iff_ping :
    let store : ProfileStore := ⟨fun _ => none⟩
    let ping := envelopeOf (F := Binary32) 100 .ping ⟨0⟩
    (tlHandleEnvelope store ping talkService).1 = true ∧
      (HeardNow (tlHandleEnvelope store ping talkService).2 100 ↔ HeardAlready talkService ping) := by
  intro store ping
  have handled : (tlHandleEnvelope store ping talkService).1 = true := by decide +kernel
  refine ⟨handled, (heard_iff talkService talkService_reachable store ping handled ?_).1⟩
  rintro ⟨msg, carries⟩
  have none : messageOf? (F := Binary32) .disconnect ping.bytes = none := by decide +kernel
  rw [messageOf?_eq_some.mpr carries] at none
  cases none

/-- The choice is selected and handled in tick 2, and the player is late in tick 3. -/
theorem heard_iff_select :
    let store : ProfileStore := ⟨fun _ => none⟩
    let select := envelopeOf (F := Binary32) 100 .dialogueSelect ⟨5, 7⟩
    let selected := tlHandleEnvelope store select talkService
    Reachable talkService ∧ selected.1 = true ∧
      (tlFindPlayerByConnection selected.2.session 100).map (·.lastHeardTick) = some 0 ∧
      selected.2.ctx.currentTick = 2 ∧ selected.2.ctx.playerTimeoutTicks = 2 ∧
      (tlFindPlayerByConnection (tlTick selected.2).session 100).isNone = true := by
  intro store select selected
  exact ⟨talkService_reachable, by decide +kernel, by decide +kernel, by decide +kernel,
    by decide +kernel, by decide +kernel⟩

end F4MP.Service

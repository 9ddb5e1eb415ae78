import F4MP.Service.Attribution
import F4MP.Service.MainLoop

/-!
# News of players

What the service tells the clients of players, and what it holds of a player while others play.
-/

namespace F4MP.Service
open SoftFloat CFloat Protocol MessageFlags

variable {F : Type}

/-! ## What the service tells of players -/

/-- What a message says about a player holds in the session: a state is the one that is held of a connected
player, or of nobody, and who has left is not connected. -/
def truthful (s : SessionState F) : (type : MessageType) → Body F type → Prop
  | .playerState, msg => msg.playerId = 0 ∨ AttributedTo s msg
  | .playerLeft, msg => ∀ p ∈ s.players.slots, p.connected = true → p.playerId ≠ msg.playerId
  | _, _ => True

theorem Placed.vacated {s : SessionState F} (placed : Placed s.seats) {id : PlayerId}
    {now : PlayerRuntimeState F} (listed : now ∈ (smRemovePlayer s id).players.slots)
    (connected : now.connected = true) : now.playerId ≠ id := by
  rintro rfl
  obtain ⟨k, at_⟩ := List.mem_iff_getElem?.mp listed
  have before : s.players.slots[k]? = some now :=
    @smRemovePlayers_connected _ s [now.playerId] k now at_ connected
  rw [placed.smRemovePlayer_slots before connected,
    List.getElem?_set_self (List.getElem?_eq_some_iff.mp before).1] at at_
  have left := congrArg (·.connected) (Option.some.inj at_)
  rw [connected] at left
  cases left

theorem Placed.vacatedAll {s : SessionState F} (placed : Placed s.seats) {ids : List PlayerId}
    {now : PlayerRuntimeState F} (listed : now ∈ (ids.foldl smRemovePlayer s).players.slots)
    (connected : now.connected = true) : now.playerId ∉ ids := by
  induction ids generalizing s with
  | nil => exact List.not_mem_nil
  | cons id ids ih =>
      have later := ih (seats_smRemovePlayer s id ▸ placed.vacate id) listed
      obtain ⟨k, at_⟩ := List.mem_iff_getElem?.mp listed
      have between : now ∈ (smRemovePlayer s id).players.slots :=
        List.mem_of_getElem? (smRemovePlayers_connected (s := smRemovePlayer s id) at_ connected)
      exact List.not_mem_cons_of_ne_of_not_mem (placed.vacated between connected) later

section Truth
variable [CFloat F] [WireFloat F] {store : ProfileStore} {env : TransportEnvelope}
  {s after : ServiceState F} {posts : List (Post F)} {ok : Bool}

omit [CFloat F] in
/-- What a sender makes the service relay is the state that it has written. -/
theorem OwnWrite.truthful {player : PlayerRuntimeState F}
    {f : PlayerRuntimeState F → PlayerRuntimeState F} (wrote : OwnWrite env s player f posts)
    (found : findPlayer s.session player.playerId = some player)
    (keeps : (f player).seat = player.seat) (connected : player.connected = true)
    (own : player.ownState) {session : SessionState F} (kept : f player ∈ session.players.slots) :
    ∀ p ∈ posts, Service.truthful session p.type p.body := by
  simp only [PlayerRuntimeState.seat, Seat.mk.injEq] at keeps
  intro p posted
  cases wrote with
  | heard => cases posted
  | ponged =>
      obtain rfl := List.mem_singleton.mp posted
      trivial
  | stale => cases posted
  | relayed _ _ same =>
      obtain ⟨_, _, _, rfl⟩ := mem_toConnected posted
      by_cases nobody : player.playerId = 0
      · exact .inl (same.trans nobody)
      · exact .inr ⟨same ▸ nobody, _, kept, connected, same.symm, rfl⟩
  | edited _ current =>
      obtain rfl := Option.some.inj (found.symm.trans current)
      obtain ⟨_, _, _, rfl⟩ := mem_toConnected posted
      by_cases nobody : player.replicatedState.playerId = 0
      · exact .inl nobody
      · exact .inr ⟨nobody, _, kept, connected, (own.resolve_left nobody).symm, rfl⟩

theorem Outcome.truthful (outcome : Outcome store env s posts (ok, after)) (inv : StatesOwned s) :
    ∀ p ∈ posts, Service.truthful after.session p.type p.body := by
  have placed : Placed s.session.seats := inv.aligned.placed
  intro p posted
  cases outcome with
  | ignored => cases posted
  | @seated playerGuid playerName id taken _ _ _ hello takes _ isPrefix =>
      obtain ⟨slot, takesSlot, _, slots⟩ := fillSeat_slots store inv.aligned playerName takes
      rcases List.mem_append.mp (isPrefix.subset posted) with answer | replay
      · simp only [answerPosts, welcomePost, profilePosts, List.mem_cons, List.not_mem_nil,
          or_false] at answer
        rcases answer with rfl | rfl | rfl | rfl | rfl <;> trivial
      · rcases mem_replayPosts replay with ⟨q, listed, connected, other, rfl⟩ |
          ⟨_, _, _, rfl | rfl⟩ | ⟨_, _, _, rfl⟩
        · have old : q ∈ s.session.players.slots := by
            rw [slots] at listed
            rcases List.mem_or_eq_of_mem_set listed with old | rfl
            · exact old
            · exact absurd takesSlot.seated.2 other
          by_cases nobody : q.replicatedState.playerId = 0
          · exact .inl nobody
          · exact .inr ⟨nobody, q, listed, connected, ((inv.owned q old).resolve_left nobody).symm,
              rfl⟩
        · trivial
        · trivial
        · trivial
  | @kept player f _ _ byConnection keeps _ _ wrote =>
      obtain ⟨k, _, at_, connected⟩ := resolvedSlot_found byConnection
      refine wrote.truthful (placed.findPlayer_eq at_ connected) (keeps player) connected
        (inv.owned player (List.mem_of_getElem? at_)) ?_ p posted
      rw [post_session]
      dsimp only
      rw [placed.updatePlayer_slots at_ connected f]
      exact List.mem_set (List.getElem?_eq_some_iff.mp at_).1 _
  | @left player _ _ sent =>
      obtain ⟨_, _, _, rfl⟩ := mem_toConnected (sent ▸ posted)
      have stillPlaced : Placed (heard s player.playerId).session.seats := by
        rw [seats_heard]
        exact placed
      exact fun now listed connected => stillPlaced.vacated listed connected
  | hit _ _ _ _ _ _ sent =>
      obtain ⟨_, _, _, rfl | ⟨_, _, rfl⟩ | ⟨_, rfl⟩⟩ := mem_hitPosts (sent ▸ posted) <;> trivial
  | refused _ _ _ sent =>
      rw [sent, List.mem_singleton] at posted
      subst posted
      trivial
  | built _ _ _ _ sent =>
      rcases List.mem_cons.mp (sent ▸ posted) with rfl | spawn
      · trivial
      · obtain ⟨_, _, _, _, _, rfl⟩ := mem_objectSpawnPosts spawn
        trivial
  | moved _ _ sent =>
      obtain ⟨_, _, _, rfl⟩ := mem_toConnected (sent ▸ posted)
      trivial
  | scrapped _ _ sent =>
      obtain ⟨_, _, _, rfl⟩ := mem_toConnected (sent ▸ posted)
      trivial
  | selected => cases posted

theorem NetworkPosts.truthful {e : NetworkEvent} (taken : NetworkPosts s e posts after)
    (inv : StatesOwned s) : ∀ p ∈ posts, Service.truthful after.session p.type p.body := by
  cases taken with
  | envelope outcome => exact outcome.truthful ⟨inv.aligned, inv.owned⟩
  | tick =>
      intro p posted
      rcases List.mem_append.mp posted with left | despawned
      · obtain ⟨id, listed, _, rfl⟩ := mem_leavePosts left
        intro now member connected same
        rw [tlTick_posts] at member
        have stays : now ∈ (timedOutSession s).players.slots := tickSession_players s ▸ member
        exact inv.aligned.placed.vacatedAll stays connected (same ▸ listed)
      · obtain ⟨_, _, _, _, _, rfl⟩ := mem_despawnPosts despawned
        trivial

end Truth

/-! ## What the service holds of a player -/

/-- An envelope from the connection is of none of the kinds that write into the report of its player. -/
def ReportsNothing (k : UInt32) : NetworkEvent → Prop
  | .envelope _ env => env.connectionId = k → packetType? env.bytes ≠ some .hello ∧
      packetType? env.bytes ≠ some .playerState ∧ packetType? env.bytes ≠ some .inputState
  | .tick => True

instance (k : UInt32) : ∀ e, Decidable (ReportsNothing k e)
  | .envelope _ _ => inferInstanceAs (Decidable (_ → _))
  | .tick => inferInstanceAs (Decidable True)

/-- The slot holds the same seat and the same report. -/
structure SameReport (p q : PlayerRuntimeState F) : Prop where
  seat : p.seat = q.seat
  state : p.replicatedState = q.replicatedState
  stats : p.relayStats = q.relayStats

theorem Placed.sole {s : SessionState F} (placed : Placed s.seats) {p q : PlayerRuntimeState F}
    (listed : p ∈ s.players.slots) (listed' : q ∈ s.players.slots) (connected : p.connected = true)
    (connected' : q.connected = true) (same : p.playerId = q.playerId) : p = q := by
  obtain ⟨j, at_⟩ := List.mem_iff_getElem?.mp listed
  obtain ⟨k, at'⟩ := List.mem_iff_getElem?.mp listed'
  have found := placed.findPlayer_eq at_ connected
  rw [same, placed.findPlayer_eq at' connected'] at found
  exact (Option.some.inj found).symm

section Holding
variable [CFloat F] [WireFloat F] {store : ProfileStore} {env : TransportEnvelope}
  {s after : ServiceState F} {posts : List (Post F)} {ok : Bool} {k : UInt32}

omit [CFloat F] [WireFloat F] in
theorem heard_sameReport {id : PlayerId} {now : PlayerRuntimeState F}
    (listed : now ∈ (heard s id).session.players.slots) :
    ∃ q ∈ s.session.players.slots, SameReport now q := by
  rcases Slots.mem_modifyFirst listed with old | ⟨q, before, _, rfl⟩
  · exact ⟨now, old, rfl, rfl, rfl⟩
  · exact ⟨q, before, rfl, rfl, rfl⟩

theorem Outcome.sameReport (outcome : Outcome store env s posts (ok, after))
    (aligned : Aligned s.roster) (quiet : ReportsNothing k (.envelope store env))
    {now : PlayerRuntimeState F} (listed : now ∈ after.session.players.slots)
    (connected : now.connected = true) (behind : now.connectionId = k) :
    ∃ q ∈ s.session.players.slots, SameReport now q := by
  have placed : Placed s.session.seats := aligned.placed
  cases outcome with
  | ignored => exact ⟨now, listed, rfl, rfl, rfl⟩
  | @seated playerGuid playerName id taken _ _ _ hello takes =>
      obtain ⟨slot, _, _, slots⟩ := fillSeat_slots store aligned playerName takes
      rw [post_session, slots] at listed
      rcases List.mem_or_eq_of_mem_set listed with old | rfl
      · exact ⟨now, old, rfl, rfl, rfl⟩
      · have notHello := helloOf?_packetType (quiet behind).1
        rw [notHello] at hello
        cases hello
  | @kept player f _ _ byConnection keeps _ _ wrote =>
      rcases Slots.mem_modifyFirst listed with old | ⟨q, before, held, rfl⟩
      · exact ⟨now, old, rfl, rfl, rfl⟩
      · refine ⟨q, before, ?_⟩
        have seat := keeps q
        simp only [PlayerRuntimeState.seat, Seat.mk.injEq] at seat
        rw [Bool.and_eq_true, beq_iff_eq] at held
        obtain ⟨j, _, at_, isConnected⟩ := resolvedSlot_found byConnection
        obtain rfl := placed.sole before (List.mem_of_getElem? at_) held.1 isConnected held.2
        have source := List.find?_some byConnection
        rw [Bool.and_eq_true, beq_iff_eq] at source
        obtain ⟨_, noState, noInput⟩ :=
          quiet (source.2.symm.trans (seat.2.2.1.symm.trans behind))
        cases wrote with
        | heard => exact ⟨rfl, rfl, rfl⟩
        | ponged => exact ⟨rfl, rfl, rfl⟩
        | stale carries => exact absurd (Carries.packetType carries) noState
        | relayed carries => exact absurd (Carries.packetType carries) noState
        | edited carries => exact absurd (Carries.packetType carries) noInput
  | left =>
      rcases Slots.mem_modifyFirst listed with old | ⟨q, _, _, rfl⟩
      · exact heard_sameReport old
      · cases connected
  | hit _ _ _ _ _ shot => subst shot; exact heard_sameReport listed
  | refused => exact heard_sameReport listed
  | built _ _ _ placing => subst placing; exact heard_sameReport listed
  | moved _ changed => subst changed; exact ⟨now, listed, rfl, rfl, rfl⟩
  | scrapped _ removed => subst removed; exact ⟨now, listed, rfl, rfl, rfl⟩
  | selected applied =>
      obtain ⟨dialogue, rfl⟩ := dspApplySelection_frame applied
      exact ⟨now, listed, rfl, rfl, rfl⟩

/-- Who stays behind a connection that is quiet keeps what it has reported. -/
theorem NetworkPosts.sameReport {e : NetworkEvent} (taken : NetworkPosts s e posts after)
    (aligned : Aligned s.roster) (quiet : ReportsNothing k e) {now : PlayerRuntimeState F}
    (listed : now ∈ after.session.players.slots) (connected : now.connected = true)
    (behind : now.connectionId = k) : ∃ q ∈ s.session.players.slots, SameReport now q := by
  cases taken with
  | envelope outcome => exact outcome.sameReport aligned quiet listed connected behind
  | tick =>
      rw [tlTick_posts] at listed
      have stays : now ∈ (timedOutSession s).players.slots := tickSession_players s ▸ listed
      obtain ⟨j, at_⟩ := List.mem_iff_getElem?.mp stays
      have before := List.mem_of_getElem? (smRemovePlayers_connected at_ connected)
      exact ⟨now, before, rfl, rfl, rfl⟩

end Holding

end F4MP.Service

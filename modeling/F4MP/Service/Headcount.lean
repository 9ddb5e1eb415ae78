import F4MP.Service.MainLoop
import F4MP.Service.Restart
import F4MP.Service.Retransmission

/-!
# The connected count

`connected_count` is kept beside the flags of the slots. Joining counts up, and nothing that happens in
a session counts down.
-/

namespace F4MP.Service
open SoftFloat Protocol Transition MessageFlags

variable {F : Type}

/-- `connected_count` is the number of the connected slots. -/
def CountExact (s : ServiceState F) : Prop :=
  s.session.connectedCount.toNat = connectedSlots s

instance (s : ServiceState F) : Decidable (CountExact s) := inferInstanceAs (Decidable (_ = _))

theorem connectedSlots_le (s : ServiceState F) : connectedSlots s ≤ 8 :=
  List.countP_le_length.trans_eq s.session.players.size

theorem connectedSlots_connections (s : ServiceState F) :
    connectedSlots s = (connections s.session).length :=
  (connections_length s.session).symm

/-- The step ends a connection: somebody who is connected disconnects, or is late by this tick. -/
def EndsConnection [WireFloat F] (s : ServiceState F) : ServiceEvent F → Prop
  | .envelope _ env => (∃ msg, Carries (F := F) env.bytes .disconnect msg) ∧
      ∃ player, tlFindPlayerByConnection s.session env.connectionId = some player
  | .tick => ∃ p ∈ s.session.players.slots, p.connected = true ∧ late s p = true
  | _ => False

/-- Everyone who has joined is still connected, and counted. -/
structure FullHouse [CFloat F] (s : ServiceState F) : Prop where
  aligned : Aligned s.roster
  present : ∀ seat ∈ s.session.seats, seat.playerId ≠ 0 → seat.connected = true
  counted : CountExact s

/-! ## Joining -/

section Joining
variable [CFloat F] {s taken after : ServiceState F} {playerGuid : Text} {connectionId : UInt32}
  {id : PlayerId}

theorem FullHouse.of_same (full : FullHouse s) (aligned : Aligned after.roster)
    (seats : after.session.seats = s.session.seats)
    (count : after.session.connectedCount = s.session.connectedCount) : FullHouse after := by
  refine ⟨aligned, seats ▸ full.present, ?_⟩
  rw [CountExact, count, connectedSlots_seats, ServiceState.roster, seats]
  exact full.counted.trans (connectedSlots_seats s)

theorem takeSeat_connectedCount
    (takes : takeSeat s playerGuid connectionId = some (id, taken)) :
    taken.session.connectedCount =
      if (srFindPlayerId s.registry playerGuid).isSome then s.session.connectedCount
      else s.session.connectedCount + 1 := by
  simp only [takeSeat, smJoinSession, wsAllocPlayer, smReconnectPlayer] at takes
  split at takes
  · rename_i unbound
    split at takes
    · cases takes
    · split at takes
      · cases takes
      · rename_i joined
        split at joined
        · obtain rfl := Option.some.inj joined
          obtain ⟨_, rfl⟩ := Prod.mk.inj (Option.some.inj takes)
          rw [unbound]
          rfl
        · cases joined
  · rename_i bound
    split at takes
    · cases takes
    · rename_i reconnected
      split at reconnected
      · obtain rfl := Option.some.inj reconnected
        obtain ⟨_, rfl⟩ := Prod.mk.inj (Option.some.inj takes)
        rw [bound]
        rfl
      · cases reconnected

theorem sit_present {seats : List Seat}
    (present : ∀ seat ∈ seats, seat.playerId ≠ 0 → seat.connected = true) :
    ∀ seat ∈ sit id connectionId playerGuid seats, seat.playerId ≠ 0 → seat.connected = true := by
  intro seat listed named
  rcases List.mem_or_eq_of_mem_set listed with old | rfl
  · exact present seat old named
  · rfl

/-- Whoever takes a seat is counted exactly when the seat was free. -/
theorem FullHouse.seated (full : FullHouse s) (store : ProfileStore) (playerName : Text)
    (takes : takeSeat s playerGuid connectionId = some (id, taken))
    (aligned : Aligned (fillSeat store playerGuid playerName connectionId id taken).roster) :
    FullHouse (fillSeat store playerGuid playerName connectionId id taken) := by
  have sat := takeSeat_letIn store full.aligned playerGuid playerName connectionId
  rw [takes, Option.map_some] at sat
  obtain ⟨id', given, same⟩ := Option.map_eq_some_iff.mp sat.symm
  obtain ⟨rfl, roster⟩ := Prod.mk.inj same
  have seats : (fillSeat store playerGuid playerName connectionId id' taken).session.seats =
      sit id' connectionId playerGuid s.session.seats := (congrArg Roster.seats roster).symm
  refine ⟨aligned, seats ▸ sit_present full.present, ?_⟩
  have count := takeSeat_connectedCount takes
  have few := connectedSlots_le s
  have counted : s.session.connectedCount.toNat = connectedSlots s := full.counted
  obtain ⟨low, high⟩ := full.aligned.seatFor given
  have inside : id'.toNat - 1 < s.session.seats.length := by
    rw [SessionState.seats, List.length_map, s.session.players.size, maxPlayersPerSession]
    omega
  have here := List.getElem?_eq_getElem inside
  have placed : Placed s.session.seats := full.aligned.placed
  have before : s.session.seats.countP (·.connected) = s.session.connectedCount.toNat :=
    (connectedSlots_seats s).symm.trans counted.symm
  rw [CountExact, connectedSlots_seats, ServiceState.roster, seats, sit, List.countP_set inside,
    before]
  rw [show (fillSeat store playerGuid playerName connectionId id' taken).session.connectedCount =
    taken.session.connectedCount from rfl, count]
  have seat : (srFindPlayerId s.registry playerGuid).or (lowestFree s.session.seats) = some id' :=
    given
  cases bound : srFindPlayerId s.registry playerGuid with
  | some found =>
      rw [bound, Option.some_or] at seat
      obtain rfl := Option.some.inj seat
      obtain ⟨named, _, k, seat, at_, same⟩ := full.aligned.bound.find bound
      have index := (placed.index at_ (same ▸ named)).1
      obtain rfl : k = found.toNat - 1 := by
        rw [same] at index
        omega
      obtain rfl := Option.some.inj (here.symm.trans at_)
      have occupied := full.present _ (List.getElem_mem inside)
        fun unnamed => named (same.symm.trans unnamed)
      have somebody : 0 < s.session.connectedCount.toNat := by
        rw [← before]
        exact List.countP_pos_iff.mpr ⟨_, List.getElem_mem inside, occupied⟩
      simp only [occupied, Option.isSome_some, if_true]
      omega
  | none =>
      rw [bound, Option.none_or] at seat
      have free : (s.session.seats[id'.toNat - 1]).connected = false := by
        by_contra connected
        rw [Bool.not_eq_false] at connected
        have index := (placed.connected_index here connected).1
        refine lowestFree_free seat here connected (UInt16.toNat_inj.mp ?_)
        omega
      have one : (1 : UInt16).toNat = 1 := rfl
      simp only [free, Option.isSome_none, Bool.false_eq_true, if_false, if_true, Nat.sub_zero]
      rw [UInt16.toNat_add, one]
      omega

end Joining

/-! ## Leaving -/

theorem Leaving.connections_length {s : SessionState F} {ids : List PlayerId}
    (leaving : Leaving s ids) :
    (connections (ids.foldl smRemovePlayer s)).length + ids.length = (connections s).length := by
  induction ids generalizing s with
  | nil => rfl
  | cons id ids ih =>
      obtain ⟨p, listed, connected, rfl⟩ := leaving.connected _ List.mem_cons_self
      have now := connections_smRemovePlayer leaving.placed listed connected
      have somebody : 0 < (connections s).length := by
        rw [Service.connections_length]
        exact List.countP_pos_iff.mpr ⟨p, listed, connected⟩
      rw [List.foldl_cons, List.length_cons, ← Nat.add_assoc, ih leaving.next, now]
      omega

section Steps
variable [CFloat F] [WireFloat F] {s : ServiceState F} {e : ServiceEvent F}

theorem tlTick_connectedCount (s : ServiceState F) :
    (tlTick s).session.connectedCount = s.session.connectedCount := by
  rw [tlTick_posts, tickSession_frame]

theorem tlTick_connectedSlots (aligned : Aligned s.roster) :
    connectedSlots (tlTick s) + (lateIds s).length = connectedSlots s := by
  have left := aligned.leaving.connections_length
  rw [connectedSlots, tlTick_players, ← Service.connections_length, connectedSlots_connections s]
  exact left

theorem tlHandleEnvelope_disconnect {store : ProfileStore} {env : TransportEnvelope}
    {msg : Body F .disconnect} (carries : Carries env.bytes .disconnect msg)
    {player : PlayerRuntimeState F}
    (byConnection : tlFindPlayerByConnection s.session env.connectionId = some player) :
    (tlHandleEnvelope store env s).2.session =
      smRemovePlayer (heard s player.playerId).session player.playerId := by
  obtain ⟨sequence, r, r', decoded, ends⟩ := tlHandleEnvelope_carries store carries nofun s
  have decoded : decodeMsgDisconnect.run r = (some msg, r') := decoded
  rw [ends, byConnection]
  simp only [tlHandlePlayerMessage, tlHandleDisconnect, decoded, send_tlBroadcastPlayerLeft]
  rfl

theorem EndsConnection.inexact (ends : EndsConnection s e) (aligned : Aligned s.roster)
    (counted : CountExact s) : ¬ CountExact (serviceStep s e) := by
  have counted : s.session.connectedCount.toNat = connectedSlots s := counted
  intro still
  cases e with
  | envelope store env =>
      obtain ⟨⟨msg, carries⟩, player, byConnection⟩ := ends
      have connected : player.connected = true := by
        have here := List.find?_some byConnection
        exact (Bool.and_eq_true_iff.mp here).1
      have listed : player ∈ s.session.players.slots := List.mem_of_find?_eq_some byConnection
      have seats := seats_heard s player.playerId
      have listedHeard : ∃ p ∈ (heard s player.playerId).session.players.slots,
          p.connected = true ∧ p.playerId = player.playerId := by
        have member : player.seat ∈ (heard s player.playerId).session.seats :=
          seats ▸ List.mem_map_of_mem listed
        obtain ⟨p, slot, same⟩ := List.mem_map.mp member
        exact ⟨p, slot, (congrArg Seat.connected same).trans connected, congrArg Seat.playerId same⟩
      obtain ⟨p, slot, present, named⟩ := listedHeard
      have placed : Placed (heard s player.playerId).session.seats := seats ▸ aligned.placed
      have fewer := connections_smRemovePlayer placed slot present
      rw [named] at fewer
      have same := connections_heard s player.playerId
      have somebody : 0 < connectedSlots s := List.countP_pos_iff.mpr ⟨player, listed, connected⟩
      have after : (tlHandleEnvelope store env s).2.session =
          smRemovePlayer (heard s player.playerId).session player.playerId :=
        tlHandleEnvelope_disconnect carries byConnection
      rw [CountExact, serviceStep, connectedSlots_connections, after, fewer, same,
        ← connectedSlots_connections] at still
      have count : s.session.connectedCount.toNat = connectedSlots s - 1 := still
      omega
  | tick =>
      obtain ⟨p, slot, connected, tooLate⟩ := ends
      have leaves : p.playerId ∈ lateIds s := List.mem_map_of_mem
        (List.mem_filter.mpr ⟨slot, Bool.and_eq_true_iff.mpr ⟨connected, tooLate⟩⟩)
      have some : 0 < (lateIds s).length := List.length_pos_of_mem leaves
      have fewer := tlTick_connectedSlots aligned
      rw [CountExact, serviceStep, tlTick_connectedCount, counted] at still
      omega
  | _ => exact ends

theorem Outcome.fullHouse {store : ProfileStore} {env : TransportEnvelope} {posts : List (Post F)}
    {result : Bool × ServiceState F} (outcome : Outcome store env s posts result)
    (full : FullHouse s) (aligned : Aligned result.2.roster)
    (stays : ¬ EndsConnection s (.envelope store env)) : FullHouse result.2 := by
  cases outcome with
  | ignored => exact full
  | seated _ takes =>
      have seated := full.seated store _ takes aligned
      exact ⟨aligned, seated.present, seated.counted⟩
  | kept _ keeps => exact full.of_same aligned (seats_updatePlayer s.session _ keeps) rfl
  | left byConnection _ carries => exact absurd ⟨carries, _, byConnection⟩ stays
  | hit _ _ _ _ _ shot =>
      subst shot
      exact full.of_same aligned (seats_heard s _) rfl
  | refused => exact full.of_same aligned (seats_heard s _) rfl
  | built _ _ _ placed =>
      subst placed
      exact full.of_same aligned (seats_heard s _) rfl
  | moved _ changed =>
      subst changed
      exact full.of_same aligned rfl rfl
  | scrapped _ removed =>
      subst removed
      exact full.of_same aligned rfl rfl
  | selected applied =>
      obtain ⟨_, rfl⟩ := dspApplySelection_frame applied
      exact full.of_same aligned rfl rfl

variable [LawfulWireFloat F]

theorem serviceStep_fullHouse (full : FullHouse s) (stays : ¬ EndsConnection s e) :
    FullHouse (serviceStep s e) := by
  have aligned := serviceStep_aligned full.aligned e
  cases e with
  | envelope store env =>
      obtain ⟨sequence, posts, outcome⟩ := tlHandleEnvelope_outcome store env s
      have received : FullHouse (received s sequence) := ⟨full.aligned, full.present, full.counted⟩
      exact outcome.fullHouse received aligned stays
  | tick =>
      have nobody : lateIds s = [] := by
        refine List.map_eq_nil_iff.mpr (List.filter_eq_nil_iff.mpr fun p listed both => ?_)
        obtain ⟨connected, tooLate⟩ := Bool.and_eq_true_iff.mp both
        exact stays ⟨p, listed, connected, tooLate⟩
      refine full.of_same aligned ?_ (tlTick_connectedCount s)
      rw [serviceStep, SessionState.seats, tlTick_players, nobody]
      rfl
  | popDialogueSelect =>
      obtain ⟨_, _, _, frame⟩ := popDialogueSelect_frame s
      rw [frame] at aligned ⊢
      exact full.of_same aligned rfl rfl
  | spawnHostile baseFormId position =>
      obtain ⟨_, frame⟩ := spawnHostile_frame s baseFormId position
      rw [frame] at aligned ⊢
      exact full.of_same aligned rfl rfl
  | allocSettlement settlementId center radius budget =>
      obtain ⟨_, frame⟩ := allocSettlement_frame s settlementId center radius budget
      rw [frame] at aligned ⊢
      exact full.of_same aligned rfl rfl
  | host event =>
      obtain ⟨_, _, _, frame⟩ := hostStep_frame s event
      rw [serviceStep, frame] at aligned ⊢
      exact full.of_same aligned rfl rfl
  | _ => exact full.of_same aligned rfl rfl

/-- In a run from a fresh session the count is exact in every state reached if and only if nobody
disconnects and nobody is late. -/
theorem run_countExact_iff (sessionId : SessionId) (rules : UInt32) (tickRate : UInt16)
    (whitelist : List UInt32) (events : List (ServiceEvent F)) :
    let fresh : ServiceState F := freshService sessionId rules tickRate whitelist
    (∀ before, before <+: events → CountExact (run serviceStep fresh before)) ↔
      Along serviceStep (fun s e => ¬ EndsConnection s e) fresh events := by
  intro fresh
  have nobody : connectedSlots fresh = 0 := by
    refine List.countP_eq_zero.mpr fun p listed => ?_
    rw [List.eq_of_mem_replicate listed]
    exact Bool.false_ne_true
  have start : FullHouse fresh := by
    refine ⟨freshService_aligned sessionId rules tickRate whitelist, ?_, nobody.symm⟩
    intro seat listed named
    obtain ⟨p, slot, rfl⟩ := List.mem_map.mp listed
    rw [List.eq_of_mem_replicate slot] at named
    exact absurd rfl named
  rw [reached_iff start.counted]
  refine @along_congr _ _ _ _ _ (fun _ _ => True) _ _ FullHouse ?_ ?_ start
    (along_always fun _ _ => trivial)
  · intro s e full _
    constructor
    · exact fun exact_ ends => ends.inexact full.aligned full.counted exact_
    · exact fun stays => (serviceStep_fullHouse full stays).counted
  · exact fun s e full _ stays => serviceStep_fullHouse full stays

end Steps

/-- One player joins. -/
theorem run_countExact_iff_joined :
    let events : List (ServiceEvent Binary32) :=
      [.envelope ⟨fun _ => none⟩ (envelopeOf (F := Binary32) 100 .hello (⟨0, 0⟩, [0x41], []))]
    let fresh : ServiceState Binary32 := freshService 1 15 20 []
    (∀ before, before <+: events → CountExact (run serviceStep fresh before)) ↔
      Along serviceStep (fun s e => ¬ EndsConnection s e) fresh events :=
  run_countExact_iff 1 15 20 []
    [.envelope ⟨fun _ => none⟩ (envelopeOf (F := Binary32) 100 .hello (⟨0, 0⟩, [0x41], []))]

/-- Who leaves is still counted. -/
theorem run_countExact_left :
    let store : ProfileStore := ⟨fun _ => none⟩
    let events : List (ServiceEvent Binary32) :=
      [.envelope store (envelopeOf (F := Binary32) 100 .hello (⟨0, 0⟩, [0x41], [])),
        .envelope store (envelopeOf (F := Binary32) 100 .disconnect ⟨0⟩)]
    (run serviceStep (freshService 1 15 20 []) events).session.connectedCount = 1 ∧
      connectedSlots (run serviceStep (freshService 1 15 20 []) events) = 0 := by
  intro store events
  exact ⟨by decide +kernel, by decide +kernel⟩

end F4MP.Service

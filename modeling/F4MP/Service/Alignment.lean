import F4MP.Service.Roster

/-!
# Slots and ids

The id of a player is chosen by a scan for a free id and its slot by a scan for a free slot. In every
state the service can reach the two scans agree.
-/

namespace F4MP.Service
open SoftFloat Protocol

variable {F : Type} [CFloat F]

/-- Every id is the number of its slot, and every binding is to the id of a slot. -/
structure SlotsAligned (s : ServiceState F) : Prop where
  numbered : ∀ (k : Nat) (p : PlayerRuntimeState F), s.session.players.slots[k]? = some p →
    p.playerId ≠ 0 → p.playerId.toNat = k + 1
  lastUnused : ∀ p, s.session.players.slots[7]? = some p → p.connected = false ∧ p.playerId = 0
  connectedIds : ∀ p ∈ s.session.players.slots, p.connected = true →
    1 ≤ p.playerId.toNat ∧ p.playerId.toNat ≤ 7
  connectedApart : ∀ (j k : Nat) (p q : PlayerRuntimeState F),
    s.session.players.slots[j]? = some p → s.session.players.slots[k]? = some q →
    p.connected = true → q.connected = true → p.playerId = q.playerId → j = k
  carried : ∀ e ∈ s.registry.slots, e.inUse = true →
    ∃ p ∈ s.session.players.slots, p.playerId = e.playerId
  placesNew : ∀ id ∈ candidateId s.session, ∀ connectionId,
    ∃ session, wsAllocPlayer s.session id connectionId = some session ∧ session.players.slots =
      s.session.players.slots.set (id.toNat - 1)
        { PlayerRuntimeState.zero with connected := true, playerId := id, connectionId }
  reconnects : ∀ playerGuid, ∀ id ∈ srFindPlayerId s.registry playerGuid, ∀ connectionId,
    (smReconnectPlayer s.session id connectionId).isSome

theorem Aligned.slots {s : ServiceState F} (aligned : Aligned s.roster) : SlotsAligned s := by
  have placed : Placed s.session.seats := aligned.placed
  have seated : ∀ {k : Nat} {seat : Seat}, s.session.seats[k]? = some seat →
      ∃ p ∈ s.session.players.slots, p.playerId = seat.playerId := by
    intro k seat at_
    rw [SessionState.seats, List.getElem?_map] at at_
    obtain ⟨p, here, rfl⟩ := Option.map_eq_some_iff.mp at_
    exact ⟨p, List.mem_of_getElem? here, rfl⟩
  refine ⟨?_, ?_, ?_, ?_, ?_, ?_, ?_⟩
  · exact fun k p at_ taken => (placed.index (seats_get at_) taken).1
  · intro p at_
    rcases placed 7 p.seat (seats_get at_) with unused | ⟨_, below⟩
    · exact unused
    · exact absurd below (Nat.lt_irrefl 7)
  · intro p member connected
    obtain ⟨k, at_⟩ := List.mem_iff_getElem?.mp member
    have index := placed.connected_index (seats_get at_) connected
    simp only [PlayerRuntimeState.seat] at index
    omega
  · intro j k p q atP atQ connectedP connectedQ same
    have indexP := (placed.connected_index (seats_get atP) connectedP).1
    have indexQ := (placed.connected_index (seats_get atQ) connectedQ).1
    simp only [PlayerRuntimeState.seat, same] at indexP indexQ
    omega
  · intro e member inUse
    obtain ⟨_, k, seat, at_, same⟩ := aligned.bound.seated e member inUse
    obtain ⟨p, listed, held⟩ := seated at_
    exact ⟨p, listed, held.trans same⟩
  · intro id candidate connectionId
    have lowest : lowestFree s.session.seats = some id :=
      (candidateId_lowestFree s.session).symm.trans candidate
    exact wsAllocPlayer_slots placed lowest connectionId
  · intro playerGuid id bound connectionId
    obtain ⟨_, _, k, seat, at_, same⟩ := aligned.bound.find bound
    obtain ⟨p, listed, held⟩ := seated at_
    have present : s.session.players.slots.any (·.playerId == id) = true :=
      List.any_eq_true.mpr ⟨p, listed, beq_iff_eq.mpr (held.trans same)⟩
    rw [smReconnectPlayer, if_pos present]
    rfl

theorem Aligned.slot_unique {s : ServiceState F} (aligned : Aligned s.roster)
    {p q : PlayerRuntimeState F} (listedP : p ∈ s.session.players.slots)
    (listedQ : q ∈ s.session.players.slots) (taken : p.playerId ≠ 0) (same : q.playerId = p.playerId) :
    q = p := by
  obtain ⟨j, atP⟩ := List.mem_iff_getElem?.mp listedP
  obtain ⟨k, atQ⟩ := List.mem_iff_getElem?.mp listedQ
  have numberP := aligned.slots.numbered j p atP taken
  have numberQ := aligned.slots.numbered k q atQ (same ▸ taken)
  obtain rfl : k = j := by
    rw [same] at numberQ
    omega
  exact Option.some.inj (atQ.symm.trans atP)

theorem Aligned.connected_ne_zero {s : ServiceState F} (aligned : Aligned s.roster)
    {p : PlayerRuntimeState F} (listed : p ∈ s.session.players.slots)
    (connected : p.connected = true) : p.playerId ≠ 0 := by
  intro zero
  have low := (aligned.slots.connectedIds p listed connected).1
  rw [zero] at low
  cases low

/-- In every state the service can reach, slots, ids and bindings are aligned. -/
theorem reachable_slotsAligned [WireFloat F] [LawfulWireFloat F] (s : ServiceState F)
    (reachable : Reachable s) : SlotsAligned s := reachable.aligned.slots

/-- Two players join, the first leaves, and a third takes its slot. -/
theorem reachable_slotsAligned_three :
    let store : ProfileStore := ⟨fun _ => none⟩
    let hello (connectionId : UInt32) (playerGuid : Text) : ServiceEvent Binary32 :=
      .envelope store (envelopeOf (F := Binary32) connectionId .hello (⟨0, 0⟩, playerGuid, []))
    let leave : ServiceEvent Binary32 :=
      .envelope store (envelopeOf (F := Binary32) 100 .disconnect ⟨0⟩)
    let events := [hello 100 [0x41], hello 101 [0x42], leave, hello 102 [0x43], .tick]
    SlotsAligned (Transition.run serviceStep (freshService 1 15 20 []) events) := by
  intro store hello leave events
  exact reachable_slotsAligned _ ⟨1, 15, 20, [], events, rfl⟩

end F4MP.Service

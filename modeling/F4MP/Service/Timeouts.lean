import F4MP.Service.MainLoop

/-!
# Timeouts

`tl_tick` notes the ids of the players who have been silent for too long, and then looks each of them
up again among all slots.
-/

namespace F4MP.Service
open SoftFloat Protocol Transition

variable {F : Type}

/-- What `sm_remove_player` leaves of the slot. -/
def PlayerRuntimeState.leave (p : PlayerRuntimeState F) : PlayerRuntimeState F :=
  { p with connected := false, connectionId := 0 }

theorem smRemovePlayers_leaves {s : SessionState F} {ids : List PlayerId} (leaving : Leaving s ids)
    {k : Nat} {p : PlayerRuntimeState F} (at_ : s.players.slots[k]? = some p)
    (connected : p.connected = true) (leaves : p.playerId ∈ ids) :
    (ids.foldl smRemovePlayer s).players.slots[k]? = some p.leave := by
  induction ids generalizing s with
  | nil => cases leaves
  | cons id ids ih =>
      have apart := (List.nodup_cons.mp leaving.nodup).1
      by_cases first : p.playerId = id
      · subst first
        have here : (smRemovePlayer s p.playerId).players.slots[k]? = some p.leave := by
          rw [leaving.placed.smRemovePlayer_slots at_ connected,
            List.getElem?_set_self (List.getElem?_eq_some_iff.mp at_).1]
          rfl
        rw [List.foldl_cons]
        exact smRemovePlayers_keeps here apart
      · have later := (List.mem_cons.mp leaves).resolve_left first
        have stays : p.playerId ∉ [id] := fun listed => first (List.mem_singleton.mp listed)
        exact ih leaving.next (smRemovePlayers_keeps at_ stays) later

section Tick
variable [CFloat F]

theorem Aligned.late_of_mem {s : ServiceState F} (aligned : Aligned s.roster)
    {p : PlayerRuntimeState F} (listed : p ∈ s.session.players.slots)
    (leaves : p.playerId ∈ lateIds s) : p.connected = true ∧ late s p = true := by
  obtain ⟨q, noted, same⟩ := List.mem_map.mp leaves
  obtain ⟨slot, both⟩ := List.mem_filter.mp noted
  obtain ⟨connected, tooLate⟩ := Bool.and_eq_true_iff.mp both
  rw [aligned.slot_unique slot listed (aligned.connected_ne_zero slot connected) same.symm]
  exact ⟨connected, tooLate⟩

variable [WireFloat F]

theorem tlTick_slots {s : ServiceState F} (aligned : Aligned s.roster) :
    (tlTick s).session.players.slots =
      s.session.players.slots.map fun p => if p.connected && late s p then p.leave else p := by
  rw [tlTick_players]
  refine List.ext_getElem? fun k => ?_
  rw [List.getElem?_map]
  cases at_ : s.session.players.slots[k]? with
  | none =>
      rw [List.getElem?_eq_none_iff] at at_
      rw [PlayerTable.size] at at_
      rw [Option.map_none, List.getElem?_eq_none_iff, PlayerTable.size]
      exact at_
  | some p =>
      have listed := List.mem_of_getElem? at_
      rw [Option.map_some]
      by_cases leaves : p.playerId ∈ lateIds s
      · obtain ⟨connected, tooLate⟩ := aligned.late_of_mem listed leaves
        rw [connected, tooLate]
        exact smRemovePlayers_leaves aligned.leaving at_ connected leaves
      · have stays : ¬ (p.connected && late s p) = true := fun both =>
          leaves (List.mem_map.mpr ⟨p, List.mem_filter.mpr ⟨listed, both⟩, rfl⟩)
        rw [if_neg stays]
        exact smRemovePlayers_keeps at_ leaves

theorem tlTick_clock (s : ServiceState F) :
    (tlTick s).ctx.currentTick = s.ctx.currentTick + 1 := by
  obtain ⟨_, _, sent⟩ := sendAll_frame s.session.sessionId (tickPosts s)
    { s.ctx with currentTick := s.ctx.currentTick + 1 }
  rw [tlTick_posts]
  exact congrArg TransportLoopContext.currentTick sent

/-- In every reachable state with a timeout a tick disconnects those connected players who have been
silent for longer, keeps everything else of their slots and all of the others, and leaves nobody
connected who is late. -/
theorem tlTick_expires [LawfulWireFloat F] (s : ServiceState F) (reachable : Reachable s)
    (limited : 0 < s.ctx.playerTimeoutTicks) :
    (tlTick s).session.players.slots = s.session.players.slots.map (fun p =>
        if p.connected = true ∧
            s.ctx.playerTimeoutTicks < s.ctx.currentTick + 1 - p.lastHeardTick then
          { p with connected := false, connectionId := 0 }
        else p) ∧
      (tlTick s).ctx.currentTick = s.ctx.currentTick + 1 ∧
      ∀ p ∈ (tlTick s).session.players.slots, p.connected = true →
        (tlTick s).ctx.currentTick - p.lastHeardTick ≤ s.ctx.playerTimeoutTicks := by
  have slots := tlTick_slots reachable.aligned
  have late_iff : ∀ p : PlayerRuntimeState F, (p.connected && late s p) = true ↔
      p.connected = true ∧
        s.ctx.playerTimeoutTicks < s.ctx.currentTick + 1 - p.lastHeardTick := by
    intro p
    simp only [late, limited, true_and, Bool.and_eq_true, decide_eq_true_eq]
  simp only [late_iff] at slots
  refine ⟨slots, tlTick_clock s, fun p listed connected => ?_⟩
  rw [slots] at listed
  obtain ⟨q, _, rfl⟩ := List.mem_map.mp listed
  rw [tlTick_clock]
  split at connected
  · cases connected
  · rename_i stays
    rw [if_neg stays]
    exact UInt32.not_lt.mp fun tooLate => stays ⟨connected, tooLate⟩

end Tick

/-- Of two players one pings in the second tick, and the other one is late in the third. -/
theorem tlTick_expires_one :
    let store : ProfileStore := ⟨fun _ => none⟩
    let hello (connectionId : UInt32) (playerGuid : Text) : ServiceEvent Binary32 :=
      .envelope store (envelopeOf (F := Binary32) connectionId .hello (⟨0, 0⟩, playerGuid, []))
    let ping : ServiceEvent Binary32 :=
      .envelope store (envelopeOf (F := Binary32) 101 .ping ⟨0⟩)
    let s := run serviceStep (freshService 1 15 20 [])
      [.setPlayerTimeoutTicks 2, hello 100 [0x41], hello 101 [0x42], .tick, ping, .tick]
    s.session.players.slots.map (·.connected) =
        [true, true, false, false, false, false, false, false] ∧
      (tlTick s).session.players.slots.map (·.connected) =
        [false, true, false, false, false, false, false, false] ∧
      ∀ p ∈ (tlTick s).session.players.slots, p.connected = true →
        (tlTick s).ctx.currentTick - p.lastHeardTick ≤ s.ctx.playerTimeoutTicks := by
  intro store hello ping s
  have reachable : Reachable s := ⟨1, 15, 20, [], _, rfl⟩
  exact ⟨by decide +kernel, by decide +kernel,
    (tlTick_expires s reachable (by decide +kernel)).2.2⟩

end F4MP.Service

import F4MP.Service.Outcome

/-!
# Rejected envelopes

An envelope that is rejected while there is room for its answer has changed nothing but the time at
which its sender was last heard.
-/

namespace F4MP.Service
open SoftFloat Protocol

variable {F : Type}

/-- A player without the time it was last heard. -/
def PlayerRuntimeState.unheard (p : PlayerRuntimeState F) : PlayerRuntimeState F :=
  { p with lastHeardTick := 0 }

/-- Two states with the same session, registry, queue and pending selection. -/
structure SameService (s s' : ServiceState F) : Prop where
  players : s'.session.players.slots.map (·.unheard) = s.session.players.slots.map (·.unheard)
  connectedCount : s'.session.connectedCount = s.session.connectedCount
  registry : s'.registry = s.registry
  actors : s'.session.actors = s.session.actors
  objects : s'.session.objects = s.session.objects
  settlements : s'.session.settlements = s.session.settlements
  dialogue : s'.session.dialogue = s.session.dialogue
  quest : s'.session.quest = s.session.quest
  pending : s'.ctx.hasPendingDialogueSelect = s.ctx.hasPendingDialogueSelect ∧
    s'.ctx.pendingDialoguePlayerId = s.ctx.pendingDialoguePlayerId ∧
    s'.ctx.pendingDialogueSelect = s.ctx.pendingDialogueSelect
  outputs : s'.ctx.outputs = s.ctx.outputs

theorem sameService_received (s : ServiceState F) (sequence : UInt32) :
    SameService s (received s sequence) :=
  ⟨rfl, rfl, rfl, rfl, rfl, rfl, rfl, rfl, ⟨rfl, rfl, rfl⟩, rfl⟩

theorem unheard_hear (tick : UInt32) (p : PlayerRuntimeState F) :
    (hear tick p).unheard = p.unheard := rfl

theorem SameService.heard {s s' : ServiceState F} (same : SameService s s') (playerId : PlayerId) :
    SameService s (Service.heard s' playerId) where
  players := (Slots.map_modifyFirst fun p _ => unheard_hear s'.ctx.currentTick p).trans same.players
  connectedCount := same.connectedCount
  registry := same.registry
  actors := same.actors
  objects := same.objects
  settlements := same.settlements
  dialogue := same.dialogue
  quest := same.quest
  pending := same.pending
  outputs := same.outputs

section Rejected
variable [CFloat F] [WireFloat F]

theorem Outcome.rejected {store : ProfileStore} {env : TransportEnvelope} {s after : ServiceState F}
    {posts : List (Post F)} (outcome : Outcome store env s posts (false, after))
    (room : s.ctx.outputs.length + 5 ≤ maxOutputs) :
    after = s ∨ ∃ player, tlFindPlayerByConnection s.session env.connectionId = some player ∧
      after = heard s player.playerId := by
  cases outcome with
  | ignored => exact .inl rfl
  | seated _ _ _ _ _ stopped =>
      have full := stopped rfl
      omega
  | kept byConnection _ _ failed =>
      obtain ⟨rfl, silent⟩ := failed rfl
      rcases silent with rfl | full
      · exact .inr ⟨_, byConnection, rfl⟩
      · omega

/-- A rejected envelope leaves the service as it was, except that `last_rx_sequence` and the
`last_heard_tick` of the player on its connection may have been written. -/
theorem tlHandleEnvelope_rejected [LawfulWireFloat F] (store : ProfileStore)
    (env : TransportEnvelope) (s : ServiceState F) (empty : s.ctx.outputs = [])
    (rejected : (tlHandleEnvelope store env s).1 = false) :
    let after := (tlHandleEnvelope store env s).2
    SameService s after ∧ ∃ sequence, after = received s sequence ∨
      ∃ player, tlFindPlayerByConnection s.session env.connectionId = some player ∧
        after = heard (received s sequence) player.playerId := by
  intro after
  obtain ⟨sequence, posts, outcome⟩ := tlHandleEnvelope_outcome store env s
  have split : tlHandleEnvelope store env s = (false, after) := Prod.ext rejected rfl
  have room : (received s sequence).ctx.outputs.length + 5 ≤ maxOutputs := by
    simp [received, empty, maxOutputs]
  rw [split] at outcome
  have unchanged := sameService_received s sequence
  rcases outcome.rejected room with same | ⟨player, byConnection, same⟩
  · rw [same]
    exact ⟨unchanged, sequence, .inl rfl⟩
  · rw [same]
    exact ⟨unchanged.heard player.playerId, sequence, .inr ⟨player, byConnection, rfl⟩⟩

end Rejected

/-- A player fires without a weapon. -/
theorem tlHandleEnvelope_rejected_unarmed :
    let store : ProfileStore := ⟨fun _ => none⟩
    let hello : Body Binary32 .hello := (⟨0, 0⟩, [0x41], [0x41])
    let shot : Body Binary32 .fireIntent := ⟨1, 0, 0, zeroVec, zeroVec, 0, {}, 0⟩
    let s := tlClearOutputs (tlHandleEnvelope store (envelopeOf 100 .hello hello)
      (freshService 1 15 20 [] : ServiceState Binary32)).2
    let after := (tlHandleEnvelope store (envelopeOf 100 .fireIntent shot) s).2
    SameService s after ∧ ∃ sequence, after = received s sequence ∨
      ∃ player, tlFindPlayerByConnection s.session 100 = some player ∧
        after = heard (received s sequence) player.playerId := by
  intro store hello shot s after
  have rejected : (tlHandleEnvelope store (envelopeOf 100 .fireIntent shot) s).1 = false := by
    decide +kernel
  exact tlHandleEnvelope_rejected store (envelopeOf 100 .fireIntent shot) s rfl rejected

end F4MP.Service

import F4MP.Library.Transition
import F4MP.Service.HostMirror

/-!
# Runs of the service

The service is driven by envelopes and ticks. What happens beside them, the placing of actors and
settlements, the host's dialogue and quest events and the reading of outputs, are events as well.
-/

namespace F4MP.Service
open SoftFloat Protocol Transition

variable {F : Type} [CFloat F] [WireFloat F]

/-- The state behind `sr_init`, `sm_create_session` and `tl_init`. -/
def freshService (sessionId : SessionId) (rules : UInt32) (tickRate : UInt16)
    (whitelist : List UInt32) : ServiceState F :=
  let session := wsInitSession sessionId rules tickRate
  { ctx := tlInit session, session, registry := srInit, nextObjectId := 1000, nextActorId := 2000,
    whitelist }

/-- What the host's game reports, and what it asks the mirror for. -/
inductive HostEvent where
  | dialogueOpen (dialogueId : DialogueId) (npcActorNetId speakerActorNetId : ActorNetId)
  | dialogueLine (dialogueId : DialogueId) (speakerActorNetId : ActorNetId) (text : Option Text)
  | dialogueChoices (dialogueId : DialogueId) (choices : List MsgDialogueChoiceRecord)
      (texts : TextPointers) (choiceCount : UInt16)
  | dialogueClose (dialogueId : DialogueId) (reason : UInt8)
  | questUpdate (questId : QuestId) (stage : UInt16) (tracked : UInt8)
      (objs : List MsgQuestObjectiveRecord) (texts : TextPointers) (objectiveCount : UInt8)
  | guestDialogueSelect (playerId : PlayerId) (select : MsgDialogueSelect)

def hostStep (s : ServiceState F) : HostEvent → ServiceState F
  | .dialogueOpen id npc speaker => hemDialogueOpen id npc speaker s
  | .dialogueLine id speaker text => hemDialogueLine id speaker text s
  | .dialogueChoices id choices texts count => hemDialogueChoices id choices texts count s
  | .dialogueClose id reason => hemDialogueClose id reason s
  | .questUpdate id stage tracked objs texts count =>
      (hemQuestUpdate id stage tracked objs texts count s).2
  | .guestDialogueSelect playerId select => (hemApplyGuestDialogueSelect playerId select s).2

inductive ServiceEvent (F : Type) where
  /-- `tl_handle_envelope`, with the profile files of that moment. -/
  | envelope (store : ProfileStore) (env : TransportEnvelope)
  /-- `tl_tick` -/
  | tick
  | clearOutputs
  | popDialogueSelect
  | setPlayerTimeoutTicks (timeoutTicks : UInt32)
  /-- `sm_spawn_default_hostile` -/
  | spawnHostile (baseFormId : UInt32) (position : Vec3f F)
  | allocSettlement (settlementId : UInt32) (center : Vec3f F) (radius : F) (budget : UInt32)
  /-- `interest_rebuild_bubble` -/
  | rebuildBubble (bubble : BubbleState F)
  /-- `wtp_set_trace` -/
  | setTrace (traceFn : Option (Vec3f F → Vec3f F → Bool × Bool))
  | host (event : HostEvent)

def serviceStep (s : ServiceState F) : ServiceEvent F → ServiceState F
  | .envelope store env => (tlHandleEnvelope store env s).2
  | .tick => tlTick s
  | .clearOutputs => tlClearOutputs s
  | .popDialogueSelect => (tlTryPopDialogueSelect s).2
  | .setPlayerTimeoutTicks timeoutTicks => tlSetPlayerTimeoutTicks s timeoutTicks
  | .spawnHostile baseFormId position =>
      let spawned := acSpawnHostileActor s.session s.nextActorId baseFormId position zeroRot
      { s with session := spawned.getD s.session, nextActorId := s.nextActorId + 1 }
  | .allocSettlement settlementId center radius budget =>
      let placed := wsAllocSettlement s.session settlementId center radius budget
      { s with session := placed.getD s.session }
  | .rebuildBubble bubble => { s with session := { s.session with bubble } }
  | .setTrace traceFn =>
      { s with
        session := { s.session with traceProvider := { s.session.traceProvider with traceFn } } }
  | .host event => hostStep s event

/-! ## What the local events change -/

theorem popDialogueSelect_frame (s : ServiceState F) :
    ∃ hasPendingDialogueSelect pendingDialoguePlayerId pendingDialogueSelect,
      serviceStep s .popDialogueSelect = { s with ctx := { s.ctx with
        hasPendingDialogueSelect, pendingDialoguePlayerId, pendingDialogueSelect } } := by
  rw [serviceStep, tlTryPopDialogueSelect]
  split
  · exact ⟨_, _, _, rfl⟩
  · exact ⟨_, _, _, rfl⟩

theorem spawnHostile_frame (s : ServiceState F) (baseFormId : UInt32) (position : Vec3f F) :
    ∃ actors, serviceStep s (.spawnHostile baseFormId position) =
      { s with session := { s.session with actors }, nextActorId := s.nextActorId + 1 } := by
  simp only [serviceStep, acSpawnHostileActor, wsAllocActor]
  cases s.session.actors.claim Slots.free _ with
  | none => exact ⟨_, rfl⟩
  | some actors => exact ⟨_, rfl⟩

theorem allocSettlement_frame (s : ServiceState F) (settlementId : UInt32) (center : Vec3f F)
    (radius : F) (budget : UInt32) : ∃ settlements,
    serviceStep s (.allocSettlement settlementId center radius budget) =
      { s with session := { s.session with settlements } } := by
  simp only [serviceStep, wsAllocSettlement]
  cases s.session.settlements.claim Slots.free _ with
  | none => exact ⟨_, rfl⟩
  | some settlements => exact ⟨_, rfl⟩

/-! ## Reachable states -/

/-- A state that a service can be in, whatever has happened to it. -/
def Reachable (s : ServiceState F) : Prop :=
  ∃ sessionId rules tickRate whitelist events,
    s = run serviceStep (freshService sessionId rules tickRate whitelist) events

theorem Reachable.fresh (sessionId : SessionId) (rules : UInt32) (tickRate : UInt16)
    (whitelist : List UInt32) :
    Reachable (freshService sessionId rules tickRate whitelist : ServiceState F) :=
  ⟨sessionId, rules, tickRate, whitelist, [], rfl⟩

theorem Reachable.step {s : ServiceState F} (reachable : Reachable s) (e : ServiceEvent F) :
    Reachable (serviceStep s e) := by
  obtain ⟨sessionId, rules, tickRate, whitelist, events, rfl⟩ := reachable
  exact ⟨sessionId, rules, tickRate, whitelist, events ++ [e], run_snoc.symm⟩

/-- What holds at the start and is preserved by every event holds of every reachable state. -/
theorem Reachable.invariant {Inv : ServiceState F → Prop}
    (initial : ∀ sessionId rules tickRate whitelist,
      Inv (freshService sessionId rules tickRate whitelist))
    (preserved : ∀ s e, Inv s → Inv (serviceStep s e)) {s : ServiceState F}
    (reachable : Reachable s) : Inv s := by
  obtain ⟨sessionId, rules, tickRate, whitelist, events, rfl⟩ := reachable
  refine run_invariant (P := fun _ _ => True) (fun s e held _ => preserved s e held)
    (initial sessionId rules tickRate whitelist) ?_
  exact along_always fun _ _ => trivial

end F4MP.Service

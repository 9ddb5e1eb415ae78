import F4MP.System.Numbering

/-!
# The quest that a client shows

A client takes over each quest update that the service accepts, and no other message touches its quest.
The texts of the objectives are no part of this: the encoder finds them behind the wrong records.
-/

namespace F4MP.System
open SoftFloat Protocol Wire Service Client Transition MessageFlags

variable {F U : Type}

/-! ## What is broadcast -/

theorem questMessage_record (h : MsgQuestUpdateHeader) (objs : List MsgQuestObjectiveRecord)
    (texts : TextPointers) {i : Nat} (counted : i < (min h.objectiveCount 16).toNat) :
    ((questMessage (F := F) h objs texts).2.getD i ({}, [])).1 = objs.getD i {} := by
  have cap := objectiveCount_le h.objectiveCount
  have inside : i < (packedRecords 16 (min h.objectiveCount 16).toNat {} objs texts).length := by
    rw [packedRecords_length {} objs cap]
    exact counted
  rw [questMessage, List.getD_eq_getElem _ _ inside]
  simp [packedRecords, payloadCells_records, counted]

/-! ## Agreement -/

/-- The client shows the quest of the session: the objectives have the same ids and states. -/
structure QuestAgrees (service client : SessionQuestState) : Prop where
  loaded : client.loaded = service.loaded
  questId : client.questId = service.questId
  stage : client.stage = service.stage
  tracked : client.tracked = service.tracked
  count : client.objectiveCount = service.objectiveCount
  objectives : ∀ i : Fin maxQuestObjectives,
    (client.objectives i).objectiveId = (service.objectives i).objectiveId ∧
      (client.objectives i).state = (service.objectives i).state

theorem QuestAgrees.refl (quest : SessionQuestState) : QuestAgrees quest quest :=
  ⟨rfl, rfl, rfl, rfl, rfl, fun _ => ⟨rfl, rfl⟩⟩

theorem questMirror_agrees (questId : QuestId) (stage : UInt16) (tracked count : UInt8)
    (objs : List MsgQuestObjectiveRecord) (texts : TextPointers) :
    let msg := questMessage (F := F) ⟨questId, stage, tracked, count⟩ objs texts
    QuestAgrees (questMirror questId stage tracked objs texts count)
      (proxySetQuestUpdate msg.1 msg.2) := by
  intro msg
  have same : min (min count 16) 16 = min count 16 :=
    UInt8.le_antisymm Std.min_le_left (Std.le_min_iff.mpr ⟨UInt8.le_refl _, Std.min_le_right⟩)
  refine ⟨rfl, rfl, rfl, rfl, same, fun i => ?_⟩
  simp only [questMirror, proxySetQuestUpdate, msg, questMessage, same]
  by_cases counted : i.val < (min count 16).toNat
  · have record := questMessage_record (F := F) ⟨questId, stage, tracked, count⟩ objs texts counted
    rw [if_pos counted, if_pos counted]
    exact ⟨congrArg MsgQuestObjectiveRecord.objectiveId record,
      congrArg MsgQuestObjectiveRecord.state record⟩
  · rw [if_neg counted, if_neg counted]
    exact ⟨rfl, rfl⟩

/-! ## Steps -/

section Steps
variable [CFloat F] {backend : RemoteProxyBackend F U} {connectionId : UInt32}

theorem applyMessage_quest {type : MessageType} (other : type ≠ .questUpdate) (body : Body F type)
    (c : ClientState F U) : (applyMessage backend type body c).2.quest = c.quest := by
  cases type with
  | questUpdate => exact absurd rfl other
  | actorDespawn =>
      simp only [applyMessage, paApplyActorDespawn]
      split <;> rfl
  | actorState =>
      simp only [applyMessage, paApplyActorState]
      split
      · rfl
      · split <;> rfl
  | _ => rfl

theorem posts_quest {posts : List (Post F)} (other : ∀ p ∈ posts, p.type ≠ .questUpdate)
    (c : ClientState F U) : (posts.foldl (applyPost backend connectionId) c).quest = c.quest :=
  applyPosts_keep (Q := fun after => after.quest = c.quest)
    (fun p member _ before => (applyMessage_quest (other p member) _ _).trans before) rfl

end Steps

/-! ## What the host does -/

section Host
variable [CFloat F] [WireFloat F] [LawfulWireFloat F] {backend : RemoteProxyBackend F U}
  {connectionId : UInt32} {s : ServiceState F} {c : ClientState F U}

/-- Choices and objectives fit one packet and the client's buffers. -/
def Fitting (s : ServiceState F) : ServiceEvent F → Prop
  | .host (.dialogueChoices dialogueId choices texts choiceCount) =>
      Sendable (F := F) .dialogueChoices (choicesMessage { dialogueId, choiceCount } choices texts)
  | .host (.questUpdate questId stage tracked objs texts count) =>
      (qmpValidateUpdate s.session ⟨questId, stage, tracked, count⟩ objs).accepted = true →
        Sendable (F := F) .questUpdate (questMessage ⟨questId, stage, tracked, count⟩ objs texts)
  | _ => True

/-- A message about anything else. -/
def Other (p : Post F) : Prop := Sendable p.type p.body ∧ p.type ≠ .questUpdate

omit [CFloat F] [WireFloat F] [LawfulWireFloat F] in
theorem toConnected_other {s : SessionState F} {type : MessageType} {flags : UInt16}
    {body : Body F type} (sendable : Sendable type body) (other : type ≠ .questUpdate) :
    ∀ p ∈ toConnected s type flags body, Other p := by
  intro p member
  obtain ⟨_, _, _, rfl⟩ := mem_toConnected member
  exact ⟨sendable, other⟩

theorem deliver_other (cleared : s.ctx.outputs = []) {posts : List (Post F)}
    (other : ∀ p ∈ posts, Other p) (room : posts.length ≤ maxOutputs) :
    (deliver backend connectionId (s.post posts).ctx.outputs c).quest = c.quest := by
  rw [deliver_post backend connectionId cleared (fun p member => (other p member).1) room]
  exact posts_quest (fun p member => (other p member).2) c

theorem hostStep_questAgrees (cleared : s.ctx.outputs = [])
    (connected : Connected connectionId s.session) (agrees : QuestAgrees s.session.quest c.quest)
    {event : HostEvent} (fitting : Fitting s (.host event)) :
    QuestAgrees (hostStep s event).session.quest
      (deliver backend connectionId (hostStep s event).ctx.outputs c).quest := by
  have other : ∀ {after : ServiceState F}, after.session.quest = s.session.quest →
      (deliver backend connectionId after.ctx.outputs c).quest = c.quest →
        QuestAgrees after.session.quest (deliver backend connectionId after.ctx.outputs c).quest := by
    intro after service client
    rw [service, client]
    exact agrees
  have few (type : MessageType) (flags : UInt16) (body : Body F type) :
      (toConnected s.session type flags body).length ≤ 8 := toConnected_length_le _ _ _ _
  have room (type : MessageType) (flags : UInt16) (body : Body F type) :
      (toConnected s.session type flags body).length ≤ maxOutputs := (few _ _ _).trans (by decide)
  cases event with
  | dialogueOpen dialogueId npcActorNetId speakerActorNetId =>
      refine other rfl ?_
      rw [hostStep, hemDialogueOpen_posts]
      exact deliver_other cleared
        (toConnected_other (sendable_of_plainMessage rfl _) (by decide)) (room _ _ _)
  | dialogueLine dialogueId speakerActorNetId text =>
      refine other rfl ?_
      rw [hostStep, hemDialogueLine_posts]
      exact deliver_other cleared (toConnected_other (line_sendable _ _) (by decide)) (room _ _ _)
  | dialogueChoices dialogueId choices texts choiceCount =>
      refine other rfl ?_
      rw [hostStep, hemDialogueChoices_posts]
      exact deliver_other cleared (toConnected_other fitting (by decide)) (room _ _ _)
  | dialogueClose dialogueId reason =>
      refine other rfl ?_
      rw [hostStep, hemDialogueClose_posts]
      exact deliver_other cleared
        (toConnected_other (sendable_of_plainMessage rfl _) (by decide)) (room _ _ _)
  | questUpdate questId stage tracked objs texts count =>
      by_cases accepted :
        (qmpValidateUpdate s.session ⟨questId, stage, tracked, count⟩ objs).accepted = true
      · rw [hostStep, (hemQuestUpdate_accepted texts accepted).2, hemQuestUpdate_posts texts accepted]
        exact deliver_toConnected cleared _ (fitting accepted) connected (P := fun _ => True)
          (Q := fun c => QuestAgrees _ c.quest)
          (fun _ _ => questMirror_agrees (F := F) questId stage tracked count objs texts)
          (fun _ _ => questMirror_agrees (F := F) questId stage tracked count objs texts) trivial
      · rw [hostStep, hemQuestUpdate_rejected accepted, cleared]
        exact agrees
  | guestDialogueSelect playerId select =>
      refine other (hostStep_quest rfl) ?_
      by_cases offers : Offers s.session.dialogue select
      · obtain ⟨text, posted⟩ := hemApplyGuestDialogueSelect_posts playerId offers
        rw [hostStep, posted]
        refine deliver_other cleared (fun p member => ?_) ?_
        · rcases List.mem_append.mp member with line | close
          · exact toConnected_other (line_sendable _ _) (by decide) p line
          · exact toConnected_other (sendable_of_plainMessage rfl _) (by decide) p close
        · rw [List.length_append]
          exact (Nat.add_le_add (few _ _ _) (few _ _ _)).trans (by decide)
      · have rejected := dppApplySelection_of_not_offers offers playerId
        simp only [hostStep, hemApplyGuestDialogueSelect, rejected, cleared]
        rfl

end Host

/-! ## Runs -/

section Runs
variable [CFloat F] [WireFloat F] {backend : RemoteProxyBackend F U} {connectionId : UInt32}
  {m : Mirror F U}

theorem Outcome.noQuest {store : ProfileStore} {env : TransportEnvelope} {s : ServiceState F}
    {posts : List (Post F)} {result : Bool × ServiceState F}
    (outcome : Outcome store env s posts result) : ∀ p ∈ posts, p.type ≠ .questUpdate := by
  have broadcast {after : SessionState F} {type : MessageType} {flags : UInt16}
      {body : Body F type} (other : type ≠ .questUpdate) :
      ∀ p ∈ toConnected after type flags body, p.type ≠ .questUpdate := by
    intro p member
    obtain ⟨_, _, _, rfl⟩ := mem_toConnected member
    exact other
  cases outcome with
  | ignored => exact fun p member => by cases member
  | seated _ _ _ isPrefix =>
      intro p member
      rcases List.mem_append.mp (isPrefix.subset member) with answer | replayed
      · simp only [answerPosts, welcomePost, profilePosts, List.mem_cons, List.not_mem_nil,
          or_false] at answer
        rcases answer with rfl | rfl | rfl | rfl | rfl <;> exact MessageType.noConfusion
      · rcases mem_replayPosts replayed with ⟨_, _, _, _, rfl⟩ | ⟨_, _, _, rfl | rfl⟩ | ⟨_, _, _, rfl⟩ <;>
          exact MessageType.noConfusion
  | kept _ _ personal =>
      intro p member same
      rcases personal p member with pong | state
      · exact MessageType.noConfusion (same.symm.trans pong)
      · exact MessageType.noConfusion (same.symm.trans state)
  | left _ posted => exact posted ▸ broadcast (by decide)
  | hit _ _ _ _ _ _ posted =>
      subst posted
      intro p member
      obtain ⟨_, _, _, rfl | ⟨_, _, rfl⟩ | ⟨_, rfl⟩⟩ := mem_hitPosts member <;>
        exact MessageType.noConfusion
  | refused _ _ _ posted =>
      rw [posted, List.forall_mem_singleton]
      exact MessageType.noConfusion
  | built _ _ _ _ posted =>
      rw [posted, List.forall_mem_cons]
      refine ⟨MessageType.noConfusion, fun p member => ?_⟩
      obtain ⟨_, _, _, _, _, rfl⟩ := mem_objectSpawnPosts member
      exact MessageType.noConfusion
  | moved _ _ posted => exact posted ▸ broadcast (by decide)
  | scrapped _ _ posted => exact posted ▸ broadcast (by decide)
  | selected => exact fun p member => by cases member

omit [WireFloat F] in
theorem tickPosts_noQuest {s : ServiceState F} : ∀ p ∈ tickPosts s, p.type ≠ .questUpdate := by
  intro p member
  rcases List.mem_append.mp member with leaving | despawned
  · obtain ⟨_, _, _, rfl⟩ := mem_leavePosts leaving
    exact MessageType.noConfusion
  · obtain ⟨_, _, _, _, _, rfl⟩ := mem_despawnPosts despawned
    exact MessageType.noConfusion

/-- What an event queues for the connection, its client applies. -/
def questStep (backend : RemoteProxyBackend F U) (connectionId : UInt32) (m : Mirror F U)
    (e : ServiceEvent F) : Mirror F U :=
  let s := serviceStep m.service e
  ⟨tlClearOutputs s, deliver backend connectionId s.ctx.outputs m.client⟩

/-- The client shows the session's quest, and nothing waits to be delivered. -/
structure QuestMirrored (m : Mirror F U) : Prop where
  cleared : m.service.ctx.outputs = []
  agrees : QuestAgrees m.service.session.quest m.client.quest

theorem questStep_mirrored [LawfulWireFloat F] (mirrored : QuestMirrored m)
    (connected : Connected connectionId m.service.session) (e : ServiceEvent F)
    (fitting : Fitting m.service e) : QuestMirrored (questStep backend connectionId m e) := by
  obtain ⟨cleared, agrees⟩ := mirrored
  refine ⟨rfl, ?_⟩
  have silent : (serviceStep m.service e).ctx.outputs = [] →
      (serviceStep m.service e).session.quest = m.service.session.quest →
        QuestAgrees (serviceStep m.service e).session.quest
          (deliver backend connectionId (serviceStep m.service e).ctx.outputs m.client).quest := by
    intro nothing same
    rw [nothing, same]
    exact agrees
  cases e with
  | host event => exact hostStep_questAgrees cleared connected agrees fitting
  | envelope store env =>
      obtain ⟨sequence, posts, outcome⟩ := tlHandleEnvelope_outcome store env m.service
      have other := Outcome.noQuest outcome
      have quest := outcome.keepsDialogue.quest
      have outputs := outcome.outputs
      rw [show (received m.service sequence).ctx.outputs = [] from cleared, List.nil_append] at outputs
      change QuestAgrees (tlHandleEnvelope store env m.service).2.session.quest
        (deliver backend connectionId (tlHandleEnvelope store env m.service).2.ctx.outputs
          m.client).quest
      rw [quest, outputs, queuedPosts, stamp_take,
        deliver_stamp backend connectionId _ _ fun p member =>
          outcome.sendable p (List.mem_of_mem_take member),
        posts_quest fun p member => other p (List.mem_of_mem_take member)]
      exact agrees
  | tick =>
      have quest : (tlTick m.service).session.quest = m.service.session.quest := by
        rw [tlTick_posts, tickSession_frame]
      change QuestAgrees (tlTick m.service).session.quest
        (deliver backend connectionId (tlTick m.service).ctx.outputs m.client).quest
      rw [quest, tlTick_outputs, cleared, List.nil_append, queuedPosts, stamp_take,
        deliver_stamp backend connectionId _ _ fun p member =>
          tickPosts_sendable _ p (List.mem_of_mem_take member),
        posts_quest fun p member => tickPosts_noQuest p (List.mem_of_mem_take member)]
      exact agrees
  | clearOutputs => exact silent rfl rfl
  | popDialogueSelect =>
      obtain ⟨_, _, _, frame⟩ := popDialogueSelect_frame m.service
      refine silent ?_ ?_
      · rw [frame]
        exact cleared
      · rw [frame]
  | spawnHostile baseFormId position =>
      obtain ⟨_, frame⟩ := spawnHostile_frame m.service baseFormId position
      refine silent ?_ ?_
      · rw [frame]
        exact cleared
      · rw [frame]
  | allocSettlement settlementId center radius budget =>
      obtain ⟨_, frame⟩ := allocSettlement_frame m.service settlementId center radius budget
      refine silent ?_ ?_
      · rw [frame]
        exact cleared
      · rw [frame]
  | _ => exact silent cleared rfl

end Runs

/-! ## One client -/

/-- A service that mirrors quests, with one player, and the player's client. -/
def questClient : Mirror Binary32 Unit where
  service := tlClearOutputs (run serviceStep questService [Service.helloFrom 100 [0x41]])
  client := freshClient 1 ()

theorem questClient_mirrored : QuestMirrored questClient := by
  have quest : questClient.service.session.quest = {} := by
    change (run serviceStep questService [Service.helloFrom 100 [0x41]]).session.quest = {}
    exact @run_quest _ _ _ [Service.helloFrom 100 [0x41]] _ questService (List.forall_mem_singleton.mpr trivial)
  exact ⟨rfl, quest ▸ QuestAgrees.refl {}⟩

end F4MP.System

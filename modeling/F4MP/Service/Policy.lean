import F4MP.Service.State

/-!
# Policies

`player_state_relay_policy.c`, `dialogue_selection_policy.c`, `dialogue_progression_policy.c` and
`quest_mirror_policy.c`.
-/

namespace F4MP.Service
open Protocol

variable {F : Type}

/-! ## Player state relay -/

inductive PlayerStateRelayDecision where
  | reject
  | accept
  deriving DecidableEq

def psrEvaluate (s : PlayerStateRelayStats) (msg : MsgPlayerState F) :
    PlayerStateRelayDecision × PlayerStateRelayStats :=
  if msg.stateSequence ≠ 0 ∧ s.lastSequence ≠ 0 ∧ msg.stateSequence < s.lastSequence then
    (.reject, { s with rejectedStaleCount := s.rejectedStaleCount + 1 })
  else if msg.stateSequence ≠ 0 ∧ msg.stateSequence = s.lastSequence ∧ msg.observedTick ≠ 0 ∧
      s.lastObservedTick ≠ 0 ∧ msg.observedTick ≤ s.lastObservedTick then
    (.reject, { s with rejectedStaleCount := s.rejectedStaleCount + 1 })
  else if msg.observedTick ≠ 0 ∧ s.lastObservedTick ≠ 0 ∧ msg.observedTick < s.lastObservedTick then
    (.reject, { s with rejectedRegressiveTickCount := s.rejectedRegressiveTickCount + 1 })
  else
    (.accept, { s with
      acceptedCount := s.acceptedCount + 1
      lastSequence := if msg.stateSequence ≠ 0 then msg.stateSequence else s.lastSequence
      lastObservedTick := if msg.observedTick ≠ 0 then msg.observedTick else s.lastObservedTick })

/-! ## Dialogue selection -/

inductive DialogueSelectionResult where
  | accepted
  | rejectNoActiveDialogue
  | rejectDialogueMismatch
  | rejectChoiceNotFound
  | rejectChoiceDisabled
  deriving DecidableEq

/-- The first of the counted choices with this id. -/
def findChoice (dialogue : SessionDialogueState) (choiceId : UInt32) :
    Option SessionDialogueChoiceState :=
  ((List.finRange maxDialogueChoices).find? fun i =>
    i.val < dialogue.choiceCount.toNat && (dialogue.choices i).choiceId == choiceId).map
      dialogue.choices

def dspValidateSelection (s : SessionState F) (select : MsgDialogueSelect) :
    DialogueSelectionResult :=
  if !s.dialogue.active then .rejectNoActiveDialogue
  else if s.dialogue.dialogueId ≠ select.dialogueId then .rejectDialogueMismatch
  else
    match findChoice s.dialogue select.choiceId with
    | some choice => if choice.enabled ≠ 0 then .accepted else .rejectChoiceDisabled
    | none => .rejectChoiceNotFound

def dspApplySelection (s : SessionState F) (playerId : PlayerId) (select : MsgDialogueSelect) :
    Option (SessionState F) :=
  if dspValidateSelection s select = .accepted then
    some { s with
      dialogue := { s.dialogue with
        lastSelectedChoiceId := select.choiceId
        lastSelectedByPlayer := playerId } }
  else none

/-! ## Dialogue progression -/

/-- The output of a selection that `DPR_ADVANCED_LINE` reports. -/
structure DialogueProgressionOutput where
  line : MsgDialogueLine
  lineText : Text
  close : MsgDialogueClose
  deriving DecidableEq

/-- `"Selected: "` -/
def selectedPrefix : Text := [0x53, 0x65, 0x6C, 0x65, 0x63, 0x74, 0x65, 0x64, 0x3A, 0x20]

def dppApplySelection (s : SessionState F) (playerId : PlayerId) (select : MsgDialogueSelect) :
    Option (SessionState F × DialogueProgressionOutput) := do
  let s ← dspApplySelection s playerId select
  let choice ← findChoice s.dialogue select.choiceId
  let lineText := (selectedPrefix ++ choice.text).take 255
  let dialogue := s.dialogue
  return ({ s with dialogue := { dialogue with currentLine := lineText, choiceCount := 0 } },
    { line := ⟨dialogue.dialogueId, dialogue.speakerActorNetId⟩
      lineText
      close := ⟨dialogue.dialogueId, DialogueCloseReason.ended, {}⟩ })

/-! ## Quest mirror -/

structure QuestMirrorPolicyResult where
  accepted : Bool
  reasonCode : UInt8
  deriving DecidableEq

def objectiveStateValid (state : UInt8) : Bool :=
  state == QuestObjectiveState.active || state == QuestObjectiveState.completed ||
    state == QuestObjectiveState.failed

def objectiveTransitionValid (oldState newState : UInt8) : Bool :=
  oldState == newState || (oldState == QuestObjectiveState.active &&
    (newState == QuestObjectiveState.completed || newState == QuestObjectiveState.failed))

/-- The mirrored objective that a record's state is compared with. -/
def findObjective (quest : SessionQuestState) (objectiveId : ObjectiveId) :
    Option SessionQuestObjectiveState :=
  ((List.finRange maxQuestObjectives).find? fun j =>
    j.val < quest.objectiveCount.toNat && (quest.objectives j).objectiveId == objectiveId).map
      quest.objectives

/-- The reason code one objective record is rejected with. -/
def qmpObjectiveReason (s : SessionState F) (h : MsgQuestUpdateHeader)
    (obj : MsgQuestObjectiveRecord) : Option UInt8 :=
  if !objectiveStateValid obj.state then some 5
  else if s.quest.loaded && s.quest.questId == h.questId then
    match findObjective s.quest obj.objectiveId with
    | some old => if objectiveTransitionValid old.state obj.state then none else some 7
    | none => none
  else none

def qmpValidateUpdate (s : SessionState F) (h : MsgQuestUpdateHeader)
    (objs : List MsgQuestObjectiveRecord) : QuestMirrorPolicyResult :=
  if s.rules &&& SessionRules.questMirrorEnabled = 0 then ⟨false, 2⟩
  else if maxQuestObjectives < h.objectiveCount.toNat then ⟨false, 3⟩
  else if s.quest.loaded && s.quest.questId != 0 && s.quest.questId != h.questId then ⟨false, 4⟩
  else if s.quest.loaded && s.quest.questId == h.questId && h.stage < s.quest.stage then ⟨false, 6⟩
  else
    match (objs.take h.objectiveCount.toNat).findSome? (qmpObjectiveReason s h) with
    | some reason => ⟨false, reason⟩
    | none => ⟨true, 0⟩

end F4MP.Service

import F4MP.Service.Transport

/-!
# Host event mirror

`host_event_mirror.c`: what the host's game reports is kept in the session and broadcast.
-/

namespace F4MP.Service
open SoftFloat Protocol

variable {F : Type} [CFloat F] [WireFloat F]

/-- `texts ? texts[i] : ""` -/
def textAt (texts : TextPointers) (i : Nat) : Text :=
  match texts with
  | some array => (array[i]?.join).getD []
  | none => []

def hemDialogueOpen (dialogueId : DialogueId) (npcActorNetId speakerActorNetId : ActorNetId)
    (s : ServiceState F) : ServiceState F :=
  let dialogue := { active := true, dialogueId, npcActorNetId, speakerActorNetId }
  let s := { s with session := { s.session with dialogue } }
  s.send fun session =>
    tlBroadcastDialogueOpen session ⟨dialogueId, npcActorNetId, speakerActorNetId⟩

def hemDialogueLine (dialogueId : DialogueId) (speakerActorNetId : ActorNetId)
    (text : Option Text) (s : ServiceState F) : ServiceState F :=
  let dialogue := { s.session.dialogue with
    active := true
    dialogueId
    speakerActorNetId
    currentLine := strncpyField 256 (text.getD []) }
  let s := { s with session := { s.session with dialogue } }
  s.send fun session => tlBroadcastDialogueLine session ⟨dialogueId, speakerActorNetId⟩ text

def hemDialogueChoices (dialogueId : DialogueId) (choices : List MsgDialogueChoiceRecord)
    (texts : TextPointers) (choiceCount : UInt16) (s : ServiceState F) : ServiceState F :=
  let count := min choiceCount 12
  let old := s.session.dialogue
  let dialogue := { old with
    dialogueId
    choiceCount := count
    choices := fun i =>
      if i.val < count.toNat then
        let record := choices.getD i.val {}
        ⟨record.choiceId, record.enabled, strncpyField 256 (textAt texts i.val)⟩
      else old.choices i }
  let s := { s with session := { s.session with dialogue } }
  s.send fun session =>
    tlBroadcastDialogueChoices session { dialogueId, choiceCount } choices texts

def hemDialogueClose (dialogueId : DialogueId) (reason : UInt8) (s : ServiceState F) :
    ServiceState F :=
  let old := s.session.dialogue
  let dialogue :=
    if old.dialogueId = dialogueId then
      { old with active := false, closeReason := reason, choiceCount := 0, currentLine := [] }
    else old
  let s := { s with session := { s.session with dialogue } }
  s.send fun session => tlBroadcastDialogueClose session { dialogueId, reason }

def hemQuestUpdate (questId : QuestId) (stage : UInt16) (tracked : UInt8)
    (objs : List MsgQuestObjectiveRecord) (texts : TextPointers) (objectiveCount : UInt8)
    (s : ServiceState F) : Bool × ServiceState F :=
  let h : MsgQuestUpdateHeader := { questId, stage, tracked, objectiveCount }
  if (qmpValidateUpdate s.session h objs).accepted then
    let count := min objectiveCount 16
    let quest : SessionQuestState := {
      loaded := true
      questId
      stage
      tracked
      objectiveCount := count
      objectives := fun i =>
        if i.val < count.toNat then
          let record := objs.getD i.val {}
          ⟨record.objectiveId, record.state, strncpyField 256 (textAt texts i.val)⟩
        else {} }
    let s := { s with session := { s.session with quest } }
    (true, s.send fun session => tlBroadcastQuestUpdate session h objs texts)
  else (false, s)

def hemApplyGuestDialogueSelect (playerId : PlayerId) (select : MsgDialogueSelect)
    (s : ServiceState F) : Bool × ServiceState F :=
  match dppApplySelection s.session playerId select with
  | none => (false, s)
  | some (session, out) =>
      let s := { s with session }
      let s := hemDialogueLine out.line.dialogueId out.line.speakerActorNetId (some out.lineText) s
      (true, hemDialogueClose out.close.dialogueId out.close.reason s)

end F4MP.Service

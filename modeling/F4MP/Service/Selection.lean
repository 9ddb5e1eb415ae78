import F4MP.Service.Identity
import F4MP.Service.Restart

/-!
# Dialogue selections

A guest selects one of the choices that the session mirrors. What the service accepts waits in one slot
until the host pops it and applies it.
-/

namespace F4MP.Service
open SoftFloat Protocol Transition

variable {F : Type}

/-! ## The slot -/

/-- The selection that waits to be popped. -/
def pendingSelect (ctx : TransportLoopContext) : Option (PlayerId × MsgDialogueSelect) :=
  if ctx.hasPendingDialogueSelect then
    some (ctx.pendingDialoguePlayerId, ctx.pendingDialogueSelect)
  else none

theorem tlBroadcast_pending (s : SessionState F) (type : MessageType) (flags : UInt16) (enc : Write)
    (ctx : TransportLoopContext) :
    pendingSelect (tlBroadcast s type flags enc ctx) = pendingSelect ctx := by
  obtain ⟨transport, outputs, sent⟩ := tlBroadcast_frame s type flags enc ctx
  rw [sent]
  rfl

theorem sendAll_pending [WireFloat F] (sessionId : SessionId) (posts : List (Post F))
    (ctx : TransportLoopContext) :
    pendingSelect (sendAll sessionId posts ctx) = pendingSelect ctx := by
  obtain ⟨transport, outputs, sent⟩ := sendAll_frame sessionId posts ctx
  rw [sent]
  rfl

theorem post_pending [WireFloat F] (s : ServiceState F) (posts : List (Post F)) :
    pendingSelect (s.post posts).ctx = pendingSelect s.ctx := sendAll_pending _ _ _

/-! ## Choices that are offered -/

/-- The choice is one of the mirrored dialogue's, and enabled. -/
def Offers (dialogue : SessionDialogueState) (select : MsgDialogueSelect) : Prop :=
  dialogue.active = true ∧ dialogue.dialogueId = select.dialogueId ∧
    ∃ choice ∈ findChoice dialogue select.choiceId, choice.enabled ≠ 0

instance (dialogue : SessionDialogueState) (select : MsgDialogueSelect) :
    Decidable (Offers dialogue select) :=
  have : Decidable (∃ choice ∈ findChoice dialogue select.choiceId, choice.enabled ≠ 0) :=
    Option.decidableExistsMem _
  inferInstanceAs (Decidable (_ ∧ _ ∧ _))

/-- The two fields that a selection writes. -/
def SessionDialogueState.select (dialogue : SessionDialogueState) (choiceId : UInt32)
    (playerId : PlayerId) : SessionDialogueState :=
  { dialogue with lastSelectedChoiceId := choiceId, lastSelectedByPlayer := playerId }

theorem SessionDialogueState.select_same (dialogue : SessionDialogueState) :
    dialogue.select dialogue.lastSelectedChoiceId dialogue.lastSelectedByPlayer = dialogue := rfl

theorem dspValidateSelection_accepted_iff (s : SessionState F) (select : MsgDialogueSelect) :
    dspValidateSelection s select = .accepted ↔ Offers s.dialogue select := by
  unfold dspValidateSelection Offers
  cases active : s.dialogue.active with
  | false => simp
  | true =>
      by_cases same : s.dialogue.dialogueId = select.dialogueId
      · cases found : findChoice s.dialogue select.choiceId with
        | none => simp [same]
        | some choice => by_cases enabled : choice.enabled = 0 <;> simp [same, enabled]
      · simp [same]

theorem dspApplySelection_some {s after : SessionState F} {playerId : PlayerId}
    {select : MsgDialogueSelect} (applied : dspApplySelection s playerId select = some after) :
    Offers s.dialogue select ∧
      after = { s with dialogue := s.dialogue.select select.choiceId playerId } := by
  unfold dspApplySelection at applied
  split at applied
  · rename_i accepted
    exact ⟨(dspValidateSelection_accepted_iff s select).mp accepted,
      (Option.some.inj applied).symm⟩
  · cases applied

theorem dspApplySelection_of_offers {s : SessionState F} {select : MsgDialogueSelect}
    (offers : Offers s.dialogue select) (playerId : PlayerId) :
    dspApplySelection s playerId select =
      some { s with dialogue := s.dialogue.select select.choiceId playerId } :=
  if_pos ((dspValidateSelection_accepted_iff s select).mpr offers)

/-! ## What the host does to the dialogue -/

def SessionDialogueState.close (dialogue : SessionDialogueState) (reason : UInt8) :
    SessionDialogueState :=
  { dialogue with active := false, closeReason := reason, choiceCount := 0, currentLine := [] }

/-- The choices of `hem_dialogue_choices`. -/
def SessionDialogueState.choose (dialogue : SessionDialogueState) (dialogueId : DialogueId)
    (choices : List MsgDialogueChoiceRecord) (texts : TextPointers) (choiceCount : UInt16) :
    SessionDialogueState :=
  { dialogue with
    dialogueId
    choiceCount := min choiceCount 12
    choices := fun i =>
      if i.val < (min choiceCount 12).toNat then
        ⟨(choices.getD i.val {}).choiceId, (choices.getD i.val {}).enabled,
          strncpyField 256 (textAt texts i.val)⟩
      else dialogue.choices i }

/-- The dialogue that an event of the host leaves. -/
def HostEvent.dialogue (dialogue : SessionDialogueState) : HostEvent → SessionDialogueState
  | .dialogueOpen dialogueId npcActorNetId speakerActorNetId =>
      { active := true, dialogueId, npcActorNetId, speakerActorNetId }
  | .dialogueLine dialogueId speakerActorNetId text =>
      { dialogue with
        active := true
        dialogueId
        speakerActorNetId
        currentLine := strncpyField 256 (text.getD []) }
  | .dialogueChoices dialogueId choices texts choiceCount =>
      dialogue.choose dialogueId choices texts choiceCount
  | .dialogueClose dialogueId reason =>
      if dialogue.dialogueId = dialogueId then dialogue.close reason else dialogue
  | .questUpdate .. => dialogue
  | .guestDialogueSelect playerId select =>
      if Offers dialogue select then
        (dialogue.select select.choiceId playerId).close DialogueCloseReason.ended
      else dialogue

section Host

theorem dppApplySelection_of_offers {s : SessionState F} {select : MsgDialogueSelect}
    (offers : Offers s.dialogue select) (playerId : PlayerId) :
    ∃ lineText, dppApplySelection s playerId select = some
      ({ s with
        dialogue := { s.dialogue.select select.choiceId playerId with
          currentLine := lineText, choiceCount := 0 } },
        { line := ⟨s.dialogue.dialogueId, s.dialogue.speakerActorNetId⟩
          lineText
          close := ⟨s.dialogue.dialogueId, DialogueCloseReason.ended, {}⟩ }) := by
  obtain ⟨_, _, choice, found, _⟩ := id offers
  have chosen : findChoice (s.dialogue.select select.choiceId playerId) select.choiceId =
      some choice := found
  refine ⟨(selectedPrefix ++ choice.text).take 255, ?_⟩
  simp only [dppApplySelection, dspApplySelection_of_offers offers, chosen, Option.bind_eq_bind,
    Option.bind_some]
  rfl

theorem dppApplySelection_of_not_offers {s : SessionState F} {select : MsgDialogueSelect}
    (offers : ¬ Offers s.dialogue select) (playerId : PlayerId) :
    dppApplySelection s playerId select = none := by
  have invalid : dspApplySelection s playerId select = none :=
    if_neg fun accepted => offers ((dspValidateSelection_accepted_iff _ _).mp accepted)
  simp only [dppApplySelection, invalid, Option.bind_eq_bind, Option.bind_none]

theorem hemApplyGuestDialogueSelect_offers (playerId : PlayerId) (select : MsgDialogueSelect)
    (s : ServiceState F) :
    let applied := hemApplyGuestDialogueSelect playerId select s
    (applied.1 = true ↔ Offers s.session.dialogue select) ∧ applied.2.session.dialogue =
      (HostEvent.guestDialogueSelect playerId select).dialogue s.session.dialogue := by
  by_cases offers : Offers s.session.dialogue select
  · obtain ⟨lineText, applied⟩ := dppApplySelection_of_offers offers playerId
    simp only [hemApplyGuestDialogueSelect, applied, HostEvent.dialogue, if_pos offers]
    exact ⟨iff_of_true trivial offers, if_pos rfl⟩
  · have rejected := dppApplySelection_of_not_offers offers playerId
    simp only [hemApplyGuestDialogueSelect, rejected, HostEvent.dialogue, if_neg offers]
    exact ⟨iff_of_false Bool.false_ne_true offers, trivial⟩

theorem hostStep_dialogue (s : ServiceState F) (event : HostEvent) :
    (hostStep s event).session.dialogue = event.dialogue s.session.dialogue := by
  cases event with
  | questUpdate =>
      simp only [hostStep, hemQuestUpdate]
      split <;> rfl
  | guestDialogueSelect playerId select =>
      exact (hemApplyGuestDialogueSelect_offers playerId select s).2
  | _ => rfl

end Host

/-! ## Envelopes -/

section Envelopes
variable [CFloat F] [WireFloat F] {store : ProfileStore} {env : TransportEnvelope}
  {s : ServiceState F}

/-- What an envelope keeps: the dialogue but for who has selected what, and the slot, unless it hands
over a selection. -/
structure KeepsDialogue (s after : ServiceState F) : Prop where
  dialogue : ∃ choiceId playerId, after.session.dialogue =
    s.session.dialogue.select choiceId playerId
  quest : after.session.quest = s.session.quest

theorem Outcome.keepsDialogue {posts : List (Post F)} {result : Bool × ServiceState F}
    (outcome : Outcome store env s posts result) : KeepsDialogue s result.2 := by
  have same : ∀ after : ServiceState F, after.session.dialogue = s.session.dialogue →
      after.session.quest = s.session.quest → KeepsDialogue s after :=
    fun after dialogue quest => ⟨⟨_, _, dialogue⟩, quest⟩
  cases outcome with
  | ignored => exact same s rfl rfl
  | seated _ takes =>
      obtain ⟨_, _, _, rfl⟩ := takeSeat_frame takes
      exact same _ rfl rfl
  | kept => exact same _ rfl rfl
  | left => exact same _ rfl rfl
  | hit _ _ _ _ _ shot =>
      subst shot
      exact same _ rfl rfl
  | refused => exact same _ rfl rfl
  | built _ _ _ placed =>
      subst placed
      exact same _ rfl rfl
  | moved _ changed =>
      subst changed
      exact same _ rfl rfl
  | scrapped _ removed =>
      subst removed
      exact same _ rfl rfl
  | selected applied =>
      obtain ⟨_, rfl⟩ := dspApplySelection_some applied
      exact ⟨⟨_, _, rfl⟩, rfl⟩

/-- The selection that an envelope hands over, with the player on its connection. -/
def selectionOf (s : ServiceState F) : ServiceEvent F → Option (PlayerId × MsgDialogueSelect)
  | .envelope store env =>
      if (tlHandleEnvelope store env s).1 then
        (messageOf? (F := F) .dialogueSelect env.bytes).bind fun msg =>
          (tlFindPlayerByConnection s.session env.connectionId).map fun player =>
            (player.playerId, msg)
      else none
  | _ => none

theorem Outcome.pending {posts : List (Post F)} {result : Bool × ServiceState F}
    (outcome : Outcome store env s posts result) :
    pendingSelect result.2.ctx = pendingSelect s.ctx ∨ result.1 = true ∧ ∃ player msg,
      tlFindPlayerByConnection s.session env.connectionId = some player ∧
        Carries (F := F) env.bytes .dialogueSelect msg ∧
          pendingSelect result.2.ctx = some (player.playerId, msg) := by
  cases outcome with
  | ignored => exact .inl rfl
  | seated _ takes =>
      obtain ⟨_, _, _, rfl⟩ := takeSeat_frame takes
      exact .inl (post_pending _ posts)
  | kept => exact .inl (post_pending _ posts)
  | left => exact .inl (post_pending _ posts)
  | hit => exact .inl (post_pending _ posts)
  | refused => exact .inl (post_pending _ posts)
  | built => exact .inl (post_pending _ posts)
  | moved => exact .inl (post_pending _ posts)
  | scrapped => exact .inl (post_pending _ posts)
  | selected _ byConnection own carries =>
      subst own
      exact .inr ⟨rfl, _, _, byConnection, carries, rfl⟩

theorem tlHandleEnvelope_selects (store : ProfileStore) {env : TransportEnvelope}
    {msg : Body F .dialogueSelect} (carries : Carries env.bytes .dialogueSelect msg)
    {s : ServiceState F} (handled : (tlHandleEnvelope store env s).1 = true) :
    ∃ player, tlFindPlayerByConnection s.session env.connectionId = some player ∧
      Offers s.session.dialogue msg ∧
        pendingSelect (tlHandleEnvelope store env s).2.ctx = some (player.playerId, msg) := by
  obtain ⟨sequence, r, r', decoded, ends⟩ := tlHandleEnvelope_carries store carries nofun s
  have decoded : decodeMsgDialogueSelect.run r = (some msg, r') := decoded
  rw [ends] at handled ⊢
  cases byConnection : tlFindPlayerByConnection s.session env.connectionId with
  | none =>
      rw [byConnection] at handled
      cases handled
  | some player =>
      rw [byConnection] at handled
      simp only [tlHandlePlayerMessage, tlHandleDialogueSelect, decoded] at handled ⊢
      cases applied : dspApplySelection (received s sequence).session player.playerId msg with
      | none =>
          rw [applied] at handled
          cases handled
      | some after => exact ⟨player, rfl, (dspApplySelection_some applied).1, rfl⟩

theorem selectionOf_carried {msg : Body F .dialogueSelect} {playerId : PlayerId}
    (selects : selectionOf s (.envelope store env) = some (playerId, msg)) :
    (tlHandleEnvelope store env s).1 = true ∧ Carries env.bytes .dialogueSelect msg ∧
      ∃ player, tlFindPlayerByConnection s.session env.connectionId = some player ∧
        player.playerId = playerId := by
  simp only [selectionOf] at selects
  split at selects
  · rename_i handled
    obtain ⟨msg', carried, selects⟩ := Option.bind_eq_some_iff.mp selects
    obtain ⟨player, byConnection, same⟩ := Option.map_eq_some_iff.mp selects
    cases same
    exact ⟨handled, messageOf?_eq_some.mp carried, player, byConnection, rfl⟩
  · cases selects

theorem selectionOf_offers {e : ServiceEvent F} {selection : PlayerId × MsgDialogueSelect}
    (selects : selectionOf s e = some selection) : Offers s.session.dialogue selection.2 := by
  cases e with
  | envelope store env =>
      obtain ⟨handled, carries, _⟩ := selectionOf_carried selects
      obtain ⟨_, _, offers, _⟩ := tlHandleEnvelope_selects store carries handled
      exact offers
  | _ => cases selects

variable [LawfulWireFloat F]

theorem tlHandleEnvelope_pending (store : ProfileStore) (env : TransportEnvelope)
    (s : ServiceState F) : pendingSelect (tlHandleEnvelope store env s).2.ctx =
      (selectionOf s (.envelope store env)).or (pendingSelect s.ctx) := by
  obtain ⟨sequence, posts, outcome⟩ := tlHandleEnvelope_outcome store env s
  cases selects : selectionOf s (.envelope store env) with
  | some selection =>
      obtain ⟨handled, carries, player, byConnection, own⟩ := selectionOf_carried selects
      obtain ⟨found, same, _, waits⟩ := tlHandleEnvelope_selects store carries handled
      obtain rfl := Option.some.inj (byConnection.symm.trans same)
      rw [waits, own]
      rfl
  | none =>
      rcases outcome.pending with same | ⟨handled, player, msg, byConnection, carries, _⟩
      · exact same
      · have here : tlFindPlayerByConnection s.session env.connectionId = some player :=
          byConnection
        simp only [selectionOf] at selects
        rw [if_pos handled, messageOf?_eq_some.mpr carries, here] at selects
        cases selects

theorem tlHandleEnvelope_keepsDialogue (store : ProfileStore) (env : TransportEnvelope)
    (s : ServiceState F) : KeepsDialogue s (tlHandleEnvelope store env s).2 := by
  obtain ⟨sequence, posts, outcome⟩ := tlHandleEnvelope_outcome store env s
  obtain ⟨dialogue, quest⟩ := outcome.keepsDialogue
  exact ⟨dialogue, quest⟩

end Envelopes

/-! ## Steps -/

section Steps
variable [CFloat F] [WireFloat F]

omit [CFloat F] [WireFloat F] in
theorem hemDialogueLine_sends (dialogueId : DialogueId) (speaker : ActorNetId) (text : Option Text)
    (s : ServiceState F) : ∃ transport outputs,
      (hemDialogueLine dialogueId speaker text s).ctx = { s.ctx with transport, outputs } :=
  tlBroadcast_frame _ _ _ _ _

omit [CFloat F] [WireFloat F] in
theorem hemDialogueClose_sends (dialogueId : DialogueId) (reason : UInt8) (s : ServiceState F) :
    ∃ transport outputs,
      (hemDialogueClose dialogueId reason s).ctx = { s.ctx with transport, outputs } :=
  tlBroadcast_frame _ _ _ _ _

omit [CFloat F] [WireFloat F] in
theorem hostStep_sends (s : ServiceState F) (event : HostEvent) : ∃ transport outputs,
    (hostStep s event).ctx = { s.ctx with transport, outputs } := by
  cases event with
  | dialogueOpen => exact tlBroadcast_frame _ _ _ _ _
  | dialogueLine => exact hemDialogueLine_sends _ _ _ s
  | dialogueChoices => exact tlBroadcast_frame _ _ _ _ _
  | dialogueClose => exact hemDialogueClose_sends _ _ s
  | questUpdate =>
      simp only [hostStep, hemQuestUpdate]
      split
      · exact tlBroadcast_frame _ _ _ _ _
      · exact ⟨_, _, rfl⟩
  | guestDialogueSelect playerId select =>
      simp only [hostStep, hemApplyGuestDialogueSelect]
      split
      · exact ⟨_, _, rfl⟩
      · obtain ⟨_, _, closed⟩ := hemDialogueClose_sends _ _ (hemDialogueLine _ _ _ _)
        obtain ⟨_, _, lined⟩ := hemDialogueLine_sends _ _ _ _
        rw [closed, lined]
        exact ⟨_, _, rfl⟩

omit [CFloat F] [WireFloat F] in
theorem hostStep_pending (s : ServiceState F) (event : HostEvent) :
    pendingSelect (hostStep s event).ctx = pendingSelect s.ctx := by
  obtain ⟨_, _, sent⟩ := hostStep_sends s event
  rw [sent]
  rfl

variable [LawfulWireFloat F]

theorem serviceStep_dialogue (s : ServiceState F) (e : ServiceEvent F) :
    (∃ event, e = .host event ∧
      (serviceStep s e).session.dialogue = event.dialogue s.session.dialogue) ∨
    (∀ event, e ≠ .host event) ∧ ∃ choiceId playerId,
      (serviceStep s e).session.dialogue = s.session.dialogue.select choiceId playerId := by
  have kept : ∀ after : ServiceState F, after.session.dialogue = s.session.dialogue →
      ∃ choiceId playerId, after.session.dialogue = s.session.dialogue.select choiceId playerId :=
    fun _ same => ⟨_, _, same⟩
  cases e with
  | host event => exact .inl ⟨event, rfl, hostStep_dialogue s event⟩
  | envelope store env =>
      exact .inr ⟨(fun _ same => by cases same),
        (tlHandleEnvelope_keepsDialogue store env s).dialogue⟩
  | tick =>
      refine .inr ⟨(fun _ same => by cases same), kept _ ?_⟩
      rw [serviceStep, tlTick_posts, tickSession_frame]
  | popDialogueSelect =>
      refine .inr ⟨(fun _ same => by cases same), kept _ ?_⟩
      obtain ⟨_, _, _, frame⟩ := popDialogueSelect_frame s
      rw [frame]
  | spawnHostile baseFormId position =>
      refine .inr ⟨(fun _ same => by cases same), kept _ ?_⟩
      obtain ⟨_, frame⟩ := spawnHostile_frame s baseFormId position
      rw [frame]
  | allocSettlement settlementId center radius budget =>
      refine .inr ⟨(fun _ same => by cases same), kept _ ?_⟩
      obtain ⟨_, frame⟩ := allocSettlement_frame s settlementId center radius budget
      rw [frame]
  | _ => exact .inr ⟨(fun _ same => by cases same), kept _ rfl⟩

theorem serviceStep_pending (s : ServiceState F) (e : ServiceEvent F) :
    pendingSelect (serviceStep s e).ctx = match e with
      | .popDialogueSelect => none
      | e => (selectionOf s e).or (pendingSelect s.ctx) := by
  cases e with
  | envelope store env => exact tlHandleEnvelope_pending store env s
  | tick =>
      rw [serviceStep, tlTick_posts]
      exact sendAll_pending _ _ _
  | popDialogueSelect =>
      simp only [serviceStep, tlTryPopDialogueSelect, pendingSelect]
      split <;> rfl
  | host event => exact hostStep_pending s event
  | clearOutputs => rfl
  | setPlayerTimeoutTicks => rfl
  | spawnHostile => rfl
  | allocSettlement => rfl
  | rebuildBubble => rfl
  | setTrace => rfl

end Steps

/-! ## Selections that are lost -/

section Lost
variable [CFloat F] [WireFloat F]

def poppedBy (s : ServiceState F) : ServiceEvent F → Option (PlayerId × MsgDialogueSelect)
  | .popDialogueSelect => (tlTryPopDialogueSelect s).1
  | _ => none

/-- The pairs that the pops of a run return. -/
def popped (s : ServiceState F) (events : List (ServiceEvent F)) :
    List (PlayerId × MsgDialogueSelect) := emitted serviceStep poppedBy s events

/-- The selections that the envelopes of a run hand over. -/
def handedOver (s : ServiceState F) (events : List (ServiceEvent F)) :
    List (PlayerId × MsgDialogueSelect) := emitted serviceStep selectionOf s events

/-- A connected player does not select what is offered while a selection waits. -/
def SlotFree (s : ServiceState F) : ServiceEvent F → Prop
  | .envelope _ env => ∀ msg ∈ messageOf? (F := F) .dialogueSelect env.bytes,
      ∀ _player ∈ tlFindPlayerByConnection s.session env.connectionId,
        Offers s.session.dialogue msg → pendingSelect s.ctx = none
  | _ => True

theorem selectionOf_of_offers (store : ProfileStore) {env : TransportEnvelope}
    {msg : Body F .dialogueSelect} (carries : Carries env.bytes .dialogueSelect msg)
    {s : ServiceState F} {player : PlayerRuntimeState F}
    (byConnection : tlFindPlayerByConnection s.session env.connectionId = some player)
    (offers : Offers s.session.dialogue msg) :
    selectionOf s (.envelope store env) = some (player.playerId, msg) := by
  obtain ⟨sequence, r, r', decoded, ends⟩ := tlHandleEnvelope_carries store carries nofun s
  have decoded : decodeMsgDialogueSelect.run r = (some msg, r') := decoded
  have applied := dspApplySelection_of_offers (s := (received s sequence).session) offers
    player.playerId
  have handled : (tlHandleEnvelope store env s).1 = true := by
    rw [ends, byConnection]
    simp only [tlHandlePlayerMessage, tlHandleDialogueSelect, decoded, applied]
  simp only [selectionOf]
  rw [if_pos handled, messageOf?_eq_some.mpr carries, byConnection]
  rfl

theorem slotFree_iff (s : ServiceState F) (e : ServiceEvent F) :
    SlotFree s e ↔ ((selectionOf s e).isSome = true → pendingSelect s.ctx = none) := by
  cases e with
  | envelope store env =>
      constructor
      · intro free selects
        obtain ⟨⟨playerId, msg⟩, selects⟩ := Option.isSome_iff_exists.mp selects
        obtain ⟨_, carries, player, byConnection, _⟩ := selectionOf_carried selects
        exact free msg (messageOf?_eq_some.mpr carries) player byConnection
          (selectionOf_offers selects)
      · intro free msg carried player byConnection offers
        apply free
        rw [selectionOf_of_offers store (messageOf?_eq_some.mp carried) byConnection offers]
        rfl
  | _ => exact iff_of_true trivial fun selects => by cases selects

variable [LawfulWireFloat F]

/-- A step pops what waits, or puts what it hands over in its place. -/
theorem serviceStep_slot (s : ServiceState F) (e : ServiceEvent F) :
    (poppedBy s e = pendingSelect s.ctx ∧ selectionOf s e = none ∧
      pendingSelect (serviceStep s e).ctx = none) ∨
    (poppedBy s e = none ∧
      pendingSelect (serviceStep s e).ctx = (selectionOf s e).or (pendingSelect s.ctx)) := by
  have pending := serviceStep_pending s e
  cases e with
  | popDialogueSelect =>
      refine .inl ⟨?_, rfl, pending⟩
      simp only [poppedBy, tlTryPopDialogueSelect, pendingSelect]
      split <;> rfl
  | _ => exact .inr ⟨rfl, pending⟩

theorem popped_length_le (s : ServiceState F) (events : List (ServiceEvent F)) :
    (popped s events ++ (pendingSelect (run serviceStep s events).ctx).toList).length ≤
      ((pendingSelect s.ctx).toList ++ handedOver s events).length := by
  induction events generalizing s with
  | nil => exact Nat.le_of_eq (congrArg List.length (List.append_nil _).symm)
  | cons e rest ih =>
      have later := ih (serviceStep s e)
      simp only [popped, handedOver, emitted, run_cons, List.length_append] at later ⊢
      rcases serviceStep_slot s e with ⟨pops, selects, empty⟩ | ⟨pops, waits⟩
      · rw [empty] at later
        rw [pops, selects]
        simp only [Option.toList_none, List.length_nil] at later ⊢
        omega
      · rw [waits] at later
        rw [pops]
        cases selects : selectionOf s e with
        | none =>
            rw [selects, Option.none_or] at later
            simp only [Option.toList_none, List.length_nil] at later ⊢
            omega
        | some selection =>
            rw [selects, Option.some_or] at later
            simp only [Option.toList_none, Option.toList_some, List.length_nil,
              List.length_singleton] at later ⊢
            omega

/-- What is popped, and what still waits, is what was handed over exactly when nothing was handed over
while a selection waited. -/
theorem popped_eq_iff (s : ServiceState F) (events : List (ServiceEvent F)) :
    popped s events ++ (pendingSelect (run serviceStep s events).ctx).toList =
        (pendingSelect s.ctx).toList ++ handedOver s events ↔
      Along serviceStep SlotFree s events := by
  induction events generalizing s with
  | nil => exact iff_of_true (List.append_nil _).symm trivial
  | cons e rest ih =>
      have later := ih (serviceStep s e)
      rw [Along, slotFree_iff, ← later]
      simp only [popped, handedOver, emitted, run_cons, List.append_assoc]
      rcases serviceStep_slot s e with ⟨pops, selects, empty⟩ | ⟨pops, waits⟩
      · rw [pops, selects, empty, List.append_cancel_left_eq]
        simp
      · rw [pops, waits]
        cases selects : selectionOf s e with
        | none => simp
        | some selection =>
            cases waiting : pendingSelect s.ctx with
            | none => simp
            | some lost =>
                -- the selection that waited is gone for good
                have short := popped_length_le (serviceStep s e) rest
                rw [waits, selects] at short
                refine iff_of_false (fun kept => ?_) fun free => by cases free.1 rfl
                have length := congrArg List.length kept
                simp only [popped, handedOver, Option.some_or, Option.toList_none,
                  Option.toList_some, List.length_append, List.length_nil,
                  List.length_singleton] at short length
                omega

/-- No selection is lost in a run from a fresh session exactly when none is accepted while another one
waits. -/
theorem run_popped_iff (sessionId : SessionId) (rules : UInt32) (tickRate : UInt16)
    (whitelist : List UInt32) (events : List (ServiceEvent F)) :
    let fresh : ServiceState F := freshService sessionId rules tickRate whitelist
    popped fresh events ++ (pendingSelect (run serviceStep fresh events).ctx).toList =
        handedOver fresh events ↔
      Along serviceStep SlotFree fresh events :=
  popped_eq_iff (freshService sessionId rules tickRate whitelist) events

end Lost

/-! ## Choices that are consumed -/

section Consumed
variable [CFloat F] [WireFloat F]

/-- `hem_apply_guest_dialogue_select` returns true. -/
def applies (s : ServiceState F) : ServiceEvent F → Bool
  | .host (.guestDialogueSelect playerId select) =>
      (hemApplyGuestDialogueSelect playerId select s).1
  | _ => false

def ServiceEvent.mirrorsChoices : ServiceEvent F → Bool
  | .host (.dialogueChoices ..) => true
  | _ => false

omit [CFloat F] [WireFloat F] in
theorem findChoice_none {dialogue : SessionDialogueState} (none : dialogue.choiceCount = 0)
    (choiceId : UInt32) : findChoice dialogue choiceId = Option.none := by
  have empty : (List.finRange maxDialogueChoices).find? (fun i =>
      i.val < dialogue.choiceCount.toNat && (dialogue.choices i).choiceId == choiceId) =
      Option.none := by
    refine List.find?_eq_none.mpr fun i _ counted => ?_
    rw [none] at counted
    cases counted
  rw [findChoice, empty, Option.map_none]

omit [CFloat F] [WireFloat F] in
theorem not_offers {dialogue : SessionDialogueState} (none : dialogue.choiceCount = 0)
    (select : MsgDialogueSelect) : ¬ Offers dialogue select := by
  rintro ⟨_, _, choice, found, _⟩
  rw [findChoice_none none] at found
  cases found

omit [CFloat F] [WireFloat F] in
theorem HostEvent.dialogue_choiceCount {dialogue : SessionDialogueState} {event : HostEvent}
    (other : (ServiceEvent.host event : ServiceEvent F).mirrorsChoices = false)
    (none : dialogue.choiceCount = 0) : (event.dialogue dialogue).choiceCount = 0 := by
  cases event with
  | dialogueOpen => rfl
  | dialogueLine => exact none
  | dialogueChoices => cases other
  | dialogueClose =>
      simp only [HostEvent.dialogue]
      split
      · rfl
      · exact none
  | questUpdate => exact none
  | guestDialogueSelect =>
      simp only [HostEvent.dialogue]
      split
      · rfl
      · exact none

variable [LawfulWireFloat F]

theorem serviceStep_choiceCount {s : ServiceState F} {e : ServiceEvent F}
    (other : e.mirrorsChoices = false) (none : s.session.dialogue.choiceCount = 0) :
    (serviceStep s e).session.dialogue.choiceCount = 0 := by
  rcases serviceStep_dialogue s e with ⟨event, rfl, after⟩ | ⟨_, _, _, after⟩
  · rw [after]
    exact HostEvent.dialogue_choiceCount other none
  · rw [after]
    exact none

theorem run_choiceCount {s : ServiceState F} {events : List (ServiceEvent F)}
    (others : ∀ e ∈ events, e.mirrorsChoices = false)
    (none : s.session.dialogue.choiceCount = 0) :
    (run serviceStep s events).session.dialogue.choiceCount = 0 := by
  induction events generalizing s with
  | nil => exact none
  | cons e rest ih =>
      exact ih (fun d later => others d (List.mem_cons_of_mem e later))
        (serviceStep_choiceCount (others e List.mem_cons_self) none)

omit [LawfulWireFloat F] in
theorem applies_consumes {s : ServiceState F} {e : ServiceEvent F} (applied : applies s e = true) :
    s.session.dialogue.choiceCount ≠ 0 ∧
      (serviceStep s e).session.dialogue.choiceCount = 0 := by
  cases e with
  | host event =>
      cases event with
      | guestDialogueSelect playerId select =>
          obtain ⟨succeeds, after⟩ := hemApplyGuestDialogueSelect_offers playerId select s
          have offers := succeeds.mp applied
          refine ⟨fun none => not_offers none select offers, ?_⟩
          simp only [serviceStep, hostStep, after, HostEvent.dialogue, if_pos offers]
          rfl
      | _ => cases applied
  | _ => cases applied

/-- Between two selections that are applied there are new choices. -/
theorem applies_between {s : ServiceState F} {first second : ServiceEvent F}
    {between : List (ServiceEvent F)} (applied : applies s first = true)
    (again : applies (run serviceStep s (first :: between)) second = true) :
    ∃ e ∈ between, e.mirrorsChoices = true := by
  by_contra others
  have none := run_choiceCount
    (fun e listed => Bool.eq_false_iff.mpr fun mirrors => others ⟨e, listed, mirrors⟩)
    (applies_consumes applied).2
  exact (applies_consumes again).1 none

end Consumed

/-! ## Selections and offers -/

section Offered
variable {dialogueId : DialogueId} {past : List (ServiceEvent F)}

/-- The choices last mirrored for a dialogue since it was opened, behind one more event. -/
def offerAfter (dialogueId : DialogueId) (offer : Option (List MsgDialogueChoiceRecord)) :
    ServiceEvent F → Option (List MsgDialogueChoiceRecord)
  | .host (.dialogueOpen opened _ _) => if opened = dialogueId then none else offer
  | .host (.dialogueChoices chosen choices _ choiceCount) =>
      if chosen = dialogueId then
        some ((List.range choiceCount.toNat).map fun i => choices.getD i {})
      else offer
  | _ => offer

def latestOffer (dialogueId : DialogueId) (past : List (ServiceEvent F)) :
    Option (List MsgDialogueChoiceRecord) :=
  past.foldl (offerAfter dialogueId) none

/-- A choice that the latest offer for the dialogue has. -/
def InLatestOffer (past : List (ServiceEvent F)) (dialogueId : DialogueId) (choiceId : UInt32)
    (enabled : UInt8) : Prop :=
  ∃ offer ∈ latestOffer dialogueId past, ∃ record ∈ offer,
    record.choiceId = choiceId ∧ record.enabled = enabled

/-- What is mirrored was offered for the dialogue that it is mirrored for. -/
def Belongs (past : List (ServiceEvent F)) (dialogue : SessionDialogueState) : Prop :=
  ∀ i, i.val < dialogue.choiceCount.toNat → InLatestOffer past dialogue.dialogueId
    (dialogue.choices i).choiceId (dialogue.choices i).enabled

/-- A line is about the mirrored dialogue, or finds no choices. -/
def KeepsId (s : ServiceState F) : ServiceEvent F → Prop
  | .host (.dialogueLine dialogueId _ _) =>
      dialogueId = s.session.dialogue.dialogueId ∨ s.session.dialogue.choiceCount = 0
  | _ => True

theorem latestOffer_snoc (e : ServiceEvent F) :
    latestOffer dialogueId (past ++ [e]) = offerAfter dialogueId (latestOffer dialogueId past) e :=
  List.foldl_append

theorem Belongs.of_none {dialogue : SessionDialogueState} (none : dialogue.choiceCount = 0) :
    Belongs past dialogue := by
  intro i counted
  rw [none] at counted
  cases counted

theorem Belongs.snoc {dialogue after : SessionDialogueState} {e : ServiceEvent F}
    (belongs : Belongs past dialogue)
    (alone : offerAfter dialogue.dialogueId (latestOffer dialogue.dialogueId past) e =
      latestOffer dialogue.dialogueId past)
    (same : after.dialogueId = dialogue.dialogueId ∧ after.choiceCount = dialogue.choiceCount ∧
      after.choices = dialogue.choices) : Belongs (past ++ [e]) after := by
  obtain ⟨sameId, sameCount, sameChoices⟩ := same
  intro i counted
  rw [sameCount] at counted
  rw [InLatestOffer, sameId, sameChoices, latestOffer_snoc, alone]
  exact belongs i counted

theorem Belongs.choose (dialogue : SessionDialogueState) (dialogueId : DialogueId)
    (choices : List MsgDialogueChoiceRecord) (texts : TextPointers) (choiceCount : UInt16) :
    Belongs (past ++ [.host (.dialogueChoices dialogueId choices texts choiceCount)])
      (dialogue.choose dialogueId choices texts choiceCount) := by
  intro i counted
  have counted : i.val < (min choiceCount 12).toNat := counted
  have listed : i.val < choiceCount.toNat :=
    Nat.lt_of_lt_of_le counted (UInt16.le_iff_toNat_le.mp Std.min_le_left)
  refine ⟨(List.range choiceCount.toNat).map fun i => choices.getD i {}, ?_,
    choices.getD i.val {}, List.mem_map.mpr ⟨i.val, List.mem_range.mpr listed, rfl⟩, ?_⟩
  · rw [latestOffer_snoc]
    exact if_pos rfl
  · have recorded : (dialogue.choose dialogueId choices texts choiceCount).choices i =
        ⟨(choices.getD i.val {}).choiceId, (choices.getD i.val {}).enabled,
          strncpyField 256 (textAt texts i.val)⟩ := if_pos counted
    rw [recorded]
    exact ⟨rfl, rfl⟩

section Runs
variable [CFloat F] [WireFloat F] [LawfulWireFloat F]

theorem Belongs.step {s : ServiceState F} {e : ServiceEvent F}
    (belongs : Belongs past s.session.dialogue) (keeps : KeepsId s e) :
    Belongs (past ++ [e]) (serviceStep s e).session.dialogue := by
  rcases serviceStep_dialogue s e with ⟨event, rfl, after⟩ | ⟨other, _, _, after⟩
  · rw [after]
    cases event with
    | dialogueOpen => exact .of_none rfl
    | dialogueLine dialogueId _ _ =>
        rcases keeps with rfl | none
        · exact belongs.snoc rfl ⟨rfl, rfl, rfl⟩
        · exact .of_none none
    | dialogueChoices => exact .choose _ _ _ _ _
    | dialogueClose =>
        simp only [HostEvent.dialogue]
        split
        · exact .of_none rfl
        · exact belongs.snoc rfl ⟨rfl, rfl, rfl⟩
    | questUpdate => exact belongs.snoc rfl ⟨rfl, rfl, rfl⟩
    | guestDialogueSelect =>
        simp only [HostEvent.dialogue]
        split
        · exact .of_none rfl
        · exact belongs.snoc rfl ⟨rfl, rfl, rfl⟩
  · rw [after]
    refine belongs.snoc ?_ ⟨rfl, rfl, rfl⟩
    cases e with
    | host event => exact absurd rfl (other event)
    | _ => rfl

theorem Belongs.run {s : ServiceState F} {events : List (ServiceEvent F)}
    (belongs : Belongs past s.session.dialogue) (keeps : Along serviceStep KeepsId s events) :
    Belongs (past ++ events) (run serviceStep s events).session.dialogue := by
  induction events generalizing s past with
  | nil => rwa [List.append_nil]
  | cons e rest ih =>
      have later := ih (belongs.step keeps.1) keeps.2
      rwa [List.append_assoc] at later

omit [CFloat F] [WireFloat F] [LawfulWireFloat F] in
/-- What the mirror offers, the latest offer for its dialogue has. -/
theorem Belongs.offered {dialogue : SessionDialogueState} (belongs : Belongs past dialogue)
    {select : MsgDialogueSelect} (offers : Offers dialogue select) :
    ∃ enabled, enabled ≠ 0 ∧ InLatestOffer past select.dialogueId select.choiceId enabled := by
  obtain ⟨_, same, choice, found, enabled⟩ := offers
  obtain ⟨i, first, rfl⟩ := Option.map_eq_some_iff.mp found
  have listed := List.find?_some first
  simp only [Bool.and_eq_true, decide_eq_true_eq, beq_iff_eq] at listed
  have here := belongs i listed.1
  rw [same, listed.2] at here
  exact ⟨_, enabled, here⟩

/-- Every selection that is handed over in a run from a fresh session was in the latest offer for its
dialogue, if no line brings another id to choices that are mirrored. -/
theorem run_selections_offered (sessionId : SessionId) (rules : UInt32) (tickRate : UInt16)
    (whitelist : List UInt32) (events : List (ServiceEvent F))
    (keeps : Along serviceStep KeepsId (freshService sessionId rules tickRate whitelist) events) :
    ∀ before e after, events = before ++ e :: after →
      ∀ selection ∈ selectionOf
          (run serviceStep (freshService sessionId rules tickRate whitelist) before) e,
        ∃ enabled, enabled ≠ 0 ∧
          InLatestOffer before selection.2.dialogueId selection.2.choiceId enabled := by
  rintro before e after rfl selection selects
  have fresh : Belongs ([] : List (ServiceEvent F))
      (freshService sessionId rules tickRate whitelist : ServiceState F).session.dialogue :=
    .of_none rfl
  have belongs := fresh.run (along_append.mp keeps).1
  exact belongs.offered (selectionOf_offers selects)

end Runs

end Offered

/-! ## Selections that are stale -/

section Stale

/-- A selection that was popped, and how many dialogues had been opened when it was handed over. -/
structure PoppedSelect where
  playerId : PlayerId
  select : MsgDialogueSelect
  handedOverAt : Nat
  deriving DecidableEq

/-- A service, how many dialogues it has opened, and the selections on their way to the host. -/
structure HandOver (F : Type) where
  service : ServiceState F
  opened : Nat
  waitsSince : Nat
  popped : List PoppedSelect

inductive HandOverEvent (F : Type) where
  | service (event : ServiceEvent F)
  /-- `hem_try_pop_dialogue_select` -/
  | pop
  /-- `hem_apply_guest_dialogue_select` on the selection that was popped at this place. -/
  | apply (k : Nat)

def ServiceEvent.opensDialogue : ServiceEvent F → Bool
  | .host (.dialogueOpen ..) => true
  | _ => false

variable [CFloat F] [WireFloat F]

def handOverStep (h : HandOver F) : HandOverEvent F → HandOver F
  | .service event => { h with
      service := serviceStep h.service event
      opened := if event.opensDialogue then h.opened + 1 else h.opened
      waitsSince := if (selectionOf h.service event).isSome then h.opened else h.waitsSince }
  | .pop =>
      match tlTryPopDialogueSelect h.service with
      | (none, service) => { h with service }
      | (some (playerId, select), service) =>
          { h with service, popped := h.popped ++ [⟨playerId, select, h.waitsSince⟩] }
  | .apply k =>
      match h.popped[k]? with
      | none => h
      | some p =>
          { h with service := (hemApplyGuestDialogueSelect p.playerId p.select h.service).2 }

/-- No dialogue was opened between the acceptance of a selection that is applied and this step. -/
def AppliesFresh (h : HandOver F) : HandOverEvent F → Prop
  | .apply k => ∀ p ∈ h.popped[k]?,
      (hemApplyGuestDialogueSelect p.playerId p.select h.service).1 = true →
        p.handedOverAt = h.opened
  | _ => True

/-- What is applied late is not offered again. -/
def NotOfferedAgain (h : HandOver F) : HandOverEvent F → Prop
  | .apply k => ∀ p ∈ h.popped[k]?, p.handedOverAt ≠ h.opened →
      ¬ Offers h.service.session.dialogue p.select
  | _ => True

omit [CFloat F] [WireFloat F] in
theorem appliesFresh_iff (h : HandOver F) (e : HandOverEvent F) :
    AppliesFresh h e ↔ NotOfferedAgain h e := by
  cases e with
  | apply k =>
      refine forall_congr' fun p => forall_congr' fun _ => ?_
      rw [(hemApplyGuestDialogueSelect_offers p.playerId p.select h.service).1]
      exact not_imp_not.symm.trans Iff.rfl
  | _ => exact Iff.rfl

instance (h : HandOver F) : (e : HandOverEvent F) → Decidable (AppliesFresh h e)
  | .apply _ => Option.decidableForallMem _
  | .service _ => isTrue trivial
  | .pop => isTrue trivial

end Stale

/-! ## Two guests -/

def bareService : ServiceState Binary32 := freshService 1 15 20 []

def openDialogue (dialogueId : DialogueId) : ServiceEvent Binary32 :=
  .host (.dialogueOpen dialogueId 0 0)

def offerChoice (dialogueId : DialogueId) (choiceId : UInt32) : ServiceEvent Binary32 :=
  .host (.dialogueChoices dialogueId [⟨choiceId, 1, {}⟩] none 1)

def selectFrom (connectionId : UInt32) (dialogueId : DialogueId) (choiceId : UInt32) :
    ServiceEvent Binary32 :=
  .envelope ⟨fun _ => none⟩
    (envelopeOf (F := Binary32) connectionId .dialogueSelect ⟨dialogueId, choiceId⟩)

def conversation : List (ServiceEvent Binary32) :=
  [helloFrom 100 [0x41], helloFrom 101 [0x42], openDialogue 5, offerChoice 5 7]

theorem run_popped_iff_one :
    let events := conversation ++ [selectFrom 100 5 7, .popDialogueSelect, selectFrom 101 5 7]
    popped bareService events ++ (pendingSelect (run serviceStep bareService events).ctx).toList =
        handedOver bareService events ↔
      Along serviceStep SlotFree bareService events :=
  run_popped_iff 1 15 20 [] _

/-- The first of two selections is lost. -/
theorem run_popped_lost :
    let events := conversation ++ [selectFrom 100 5 7, selectFrom 101 5 7, .popDialogueSelect]
    popped bareService events ++ (pendingSelect (run serviceStep bareService events).ctx).toList =
        [(2, ⟨5, 7⟩)] ∧
      handedOver bareService events = [(1, ⟨5, 7⟩), (2, ⟨5, 7⟩)] := by
  intro events
  exact ⟨by decide +kernel, by decide +kernel⟩

theorem applies_between_two :
    let s := run serviceStep bareService conversation
    let select : ServiceEvent Binary32 := .host (.guestDialogueSelect 1 ⟨5, 7⟩)
    let between := [openDialogue 5, offerChoice 5 7]
    applies (run serviceStep s (select :: between)) select = true ∧
      ∃ e ∈ between, e.mirrorsChoices = true := by
  intro s select between
  have again : applies (run serviceStep s (select :: between)) select = true := by decide +kernel
  have applied : applies s select = true := by decide +kernel
  exact ⟨again, applies_between applied again⟩

theorem run_selections_offered_one :
    let events := conversation ++ [selectFrom 100 5 7]
    (∃ selection, selection ∈ selectionOf (run serviceStep bareService conversation)
      (selectFrom 100 5 7)) ∧
    ∀ before e after, events = before ++ e :: after →
      ∀ selection ∈ selectionOf (run serviceStep bareService before) e,
        ∃ enabled, enabled ≠ 0 ∧
          InLatestOffer before selection.2.dialogueId selection.2.choiceId enabled := by
  intro events
  refine ⟨Option.isSome_iff_exists.mp (by decide +kernel), ?_⟩
  exact run_selections_offered 1 15 20 [] events ⟨trivial, trivial, trivial, trivial, trivial, trivial⟩

/-- A line for another dialogue takes the choices along. -/
theorem run_selections_foreign :
    let before := conversation ++ [.host (.dialogueLine 6 0 none)]
    selectionOf (run serviceStep bareService before) (selectFrom 100 6 7) = some (1, ⟨6, 7⟩) ∧
      ∀ enabled, ¬ InLatestOffer before 6 7 enabled := by
  intro before
  refine ⟨by decide +kernel, ?_⟩
  rintro enabled ⟨offer, listed, _⟩
  cases listed

def staleHandOver : List (HandOverEvent Binary32) :=
  (conversation ++ [selectFrom 100 5 7]).map .service ++ .pop ::
    [openDialogue 5, offerChoice 5 7].map .service ++ [.apply 0]

end F4MP.Service

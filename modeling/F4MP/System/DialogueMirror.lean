import F4MP.Service.Combat
import F4MP.Service.Selection
import F4MP.System.Mirror

/-!
# The dialogue that a client shows

The host opens, continues and closes a dialogue, and a client follows what is broadcast about it. The
client also ends a dialogue whose actors die or despawn, and takes every list of choices for an open
dialogue.
-/

namespace F4MP.System
open SoftFloat Protocol Wire Service Client Transition MessageFlags

variable {F U : Type}

/-! ## What is broadcast -/

/-- The choices of a broadcast, each with the text that the encoder finds for it. -/
def choicesMessage (h : MsgDialogueChoicesHeader) (choices : List MsgDialogueChoiceRecord)
    (texts : TextPointers) : Body F .dialogueChoices :=
  let h := { h with choiceCount := min h.choiceCount 12 }
  let count := h.choiceCount.toNat
  let cells := payloadCells 12 count {} choices texts
  let found := textsOrEmpty (some ((cells.drop count).map PayloadCell.asPointer)) count
  (h, (cells.filterMap PayloadCell.asRecord?).zip (found.map cString))

theorem payloadCells_records {R : Type} (capacity count : Nat) (zero : R) (records : List R)
    (texts : TextPointers) :
    (payloadCells capacity count zero records texts).filterMap PayloadCell.asRecord? =
      (List.range capacity).map fun i => if i < count then records.getD i zero else zero := by
  simp [payloadCells, List.filterMap_append, List.filterMap_map, Function.comp_def,
    PayloadCell.asRecord?]

theorem choiceCount_le (count : UInt16) : (min count 12).toNat ≤ 12 :=
  UInt16.le_iff_toNat_le.mp Std.min_le_right

theorem choiceCount_capped (count : UInt16) : min (min count 12) 12 = min count 12 :=
  UInt16.le_antisymm Std.min_le_left
    (Std.le_min_iff.mpr ⟨UInt16.le_refl _, Std.min_le_right⟩)

theorem choicesMessage_length (h : MsgDialogueChoicesHeader)
    (choices : List MsgDialogueChoiceRecord) (texts : TextPointers) :
    (choicesMessage (F := F) h choices texts).2.length = (min h.choiceCount 12).toNat := by
  have cap := choiceCount_le h.choiceCount
  simp only [choicesMessage, List.length_zip, payloadCells_records, List.length_map,
    List.length_range, textsOrEmpty]
  omega

theorem choicesMessage_record (h : MsgDialogueChoicesHeader)
    (choices : List MsgDialogueChoiceRecord) (texts : TextPointers) {i : Nat}
    (counted : i < (min h.choiceCount 12).toNat) :
    ((choicesMessage (F := F) h choices texts).2.getD i ({}, [])).1 = choices.getD i {} := by
  have cap := choiceCount_le h.choiceCount
  have inside : i < (choicesMessage (F := F) h choices texts).2.length := by
    rw [choicesMessage_length]
    exact counted
  rw [List.getD_eq_getElem _ _ inside]
  simp [choicesMessage, payloadCells_records, counted]

theorem encodeDialogueChoice_cString (choice : MsgDialogueChoiceRecord × Text) :
    encodeDialogueChoice (choice.1, cString choice.2) = encodeDialogueChoice choice := by
  have same : cString (cString choice.2) = cString choice.2 := cString_whole (cString_noNul _)
  simp only [encodeDialogueChoice, pwWriteStringU16, same]

theorem writeEach_map {σ α γ : Type} (w : α → OptionT (StateM σ) Unit) (f : γ → α) (l : List γ) :
    writeEach w (l.map f) = writeEach (fun a => w (f a)) l := by
  induction l with
  | nil => rfl
  | cons a l ih => simp only [List.map_cons, writeEach, ih]

variable [WireFloat F]

theorem choicesMessage_encodes (h : MsgDialogueChoicesHeader)
    (choices : List MsgDialogueChoiceRecord) (texts : TextPointers) :
    let h' := { h with choiceCount := min h.choiceCount 12 }
    encodeDialogueChoicesAdapter h' (payloadCells 12 h'.choiceCount.toNat {} choices texts) =
      encodeBody (F := F) .dialogueChoices (choicesMessage h choices texts) := by
  intro h'
  have counted : (choicesMessage (F := F) h choices texts).2.length =
      (choicesMessage (F := F) h choices texts).1.choiceCount.toNat :=
    choicesMessage_length h choices texts
  simp only [encodeDialogueChoicesAdapter, encodeBody, encodeMsgDialogueChoices]
  rw [zip_textsOrEmpty counted]
  simp only [choicesMessage, List.zip_map_right, writeEach_map]
  simp only [Prod.map, id, encodeDialogueChoice_cString]
  rfl

/-! ## What is posted -/

/-- The one event of the host that is not about the dialogue. -/
def updatesQuest : ServiceEvent F → Bool
  | .host (.questUpdate ..) => true
  | _ => false


def linePosts (s : SessionState F) (dialogueId : DialogueId) (speakerActorNetId : ActorNetId)
    (text : Option Text) : List (Post F) :=
  toConnected s .dialogueLine (reliable ||| ordered ||| ch4Ui)
    (⟨dialogueId, speakerActorNetId⟩, strncpyField 256 (text.getD []))

def closePosts (s : SessionState F) (dialogueId : DialogueId) (reason : UInt8) : List (Post F) :=
  toConnected s .dialogueClose (reliable ||| ordered ||| ch4Ui) { dialogueId, reason }

theorem hemDialogueOpen_posts (dialogueId : DialogueId)
    (npcActorNetId speakerActorNetId : ActorNetId) (s : ServiceState F) :
    (hemDialogueOpen dialogueId npcActorNetId speakerActorNetId s).ctx =
      (s.post (toConnected s.session .dialogueOpen (reliable ||| ordered ||| ch4Ui)
        ⟨dialogueId, npcActorNetId, speakerActorNetId⟩)).ctx :=
  tlBroadcast_posts s.session .dialogueOpen _ ⟨dialogueId, npcActorNetId, speakerActorNetId⟩ s.ctx

theorem hemDialogueLine_posts (dialogueId : DialogueId) (speakerActorNetId : ActorNetId)
    (text : Option Text) (s : ServiceState F) :
    (hemDialogueLine dialogueId speakerActorNetId text s).ctx =
      (s.post (linePosts s.session dialogueId speakerActorNetId text)).ctx :=
  tlBroadcast_posts s.session .dialogueLine _
    (⟨dialogueId, speakerActorNetId⟩, strncpyField 256 (text.getD [])) s.ctx

theorem hemDialogueChoices_posts (dialogueId : DialogueId) (choices : List MsgDialogueChoiceRecord)
    (texts : TextPointers) (choiceCount : UInt16) (s : ServiceState F) :
    (hemDialogueChoices dialogueId choices texts choiceCount s).ctx =
      (s.post (toConnected s.session .dialogueChoices (reliable ||| ordered ||| ch4Ui)
        (choicesMessage { dialogueId, choiceCount } choices texts))).ctx := by
  have encodes := choicesMessage_encodes (F := F) { dialogueId, choiceCount } choices texts
  simp only [hemDialogueChoices, ServiceState.send, tlBroadcastDialogueChoices, encodes]
  exact tlBroadcast_posts s.session .dialogueChoices _ _ s.ctx

theorem hemDialogueClose_posts (dialogueId : DialogueId) (reason : UInt8) (s : ServiceState F) :
    (hemDialogueClose dialogueId reason s).ctx =
      (s.post (closePosts s.session dialogueId reason)).ctx :=
  tlBroadcast_posts s.session .dialogueClose _ { dialogueId, reason } s.ctx

theorem hemApplyGuestDialogueSelect_posts (playerId : PlayerId) {select : MsgDialogueSelect}
    {s : ServiceState F} (offers : Offers s.session.dialogue select) :
    ∃ text, (hemApplyGuestDialogueSelect playerId select s).2.ctx =
      (s.post (linePosts s.session s.session.dialogue.dialogueId
          s.session.dialogue.speakerActorNetId (some text) ++
        closePosts s.session s.session.dialogue.dialogueId DialogueCloseReason.ended)).ctx := by
  obtain ⟨lineText, applied⟩ := dppApplySelection_of_offers offers playerId
  refine ⟨lineText, ?_⟩
  simp only [hemApplyGuestDialogueSelect, applied]
  rw [hemDialogueClose_posts, ← post_post, ServiceState.post, hemDialogueLine_posts]
  rfl

omit [WireFloat F] in
theorem line_sendable (msg : MsgDialogueLine) (text : Text) :
    Sendable (F := F) .dialogueLine (msg, strncpyField 256 text) := by
  have short : (strncpyField 256 text).length ≤ 255 := List.length_take_le _ _
  have noNul : 0 ∉ strncpyField 256 text := fun inside =>
    cString_noNul _ (List.mem_of_mem_take inside)
  refine ⟨⟨noNul, Nat.lt_succ_of_le short⟩, short.trans (by decide), ?_⟩
  simp only [bodySize, f4mpMaxPacketSize, packetHeaderSize, messageHeaderSize]
  omega

/-! ## What is delivered -/

section Delivery
variable [CFloat F] [LawfulWireFloat F]

theorem deliver_post (backend : RemoteProxyBackend F U) (connectionId : UInt32) {s : ServiceState F}
    (cleared : s.ctx.outputs = []) {posts : List (Post F)}
    (sendable : ∀ p ∈ posts, Sendable p.type p.body) (room : posts.length ≤ maxOutputs)
    (c : ClientState F U) : deliver backend connectionId (s.post posts).ctx.outputs c =
      posts.foldl (applyPost backend connectionId) c := by
  rw [post_outputs sendable, queuedPosts, cleared, List.nil_append, List.length_nil, Nat.sub_zero,
    stamp_take, List.take_of_length_le room, deliver_stamp backend connectionId _ _ sendable]

end Delivery

/-! ## Agreement -/

/-- Both sides are about the same dialogue with the same actors. -/
structure SameScene (service : SessionDialogueState) (client : ProxyDialogueState) : Prop where
  dialogueId : client.dialogueId = service.dialogueId
  npc : client.npcActorNetId = service.npcActorNetId
  speaker : client.speakerActorNetId = service.speakerActorNetId

/-- The client shows the dialogue of the session. -/
structure DialogueAgrees (service : SessionDialogueState) (client : ProxyDialogueState) : Prop extends
    SameScene service client where
  active : client.active = service.active
  line : client.currentLine = service.currentLine
  count : client.choiceCount = service.choiceCount
  choices : ∀ i : Fin maxDialogueChoices, i.val < service.choiceCount.toNat →
    (client.choices i).choiceId = (service.choices i).choiceId ∧
      (client.choices i).enabled = (service.choices i).enabled

section Agreement
variable {d : SessionDialogueState} {c : ProxyDialogueState} {dialogueId : DialogueId}

omit [WireFloat F]

theorem DialogueAgrees.of_eq {d' : SessionDialogueState} (agrees : DialogueAgrees d' c) (same : d' = d) :
    DialogueAgrees d c := same ▸ agrees

theorem DialogueAgrees.of_client {c' : ProxyDialogueState} (agrees : DialogueAgrees d c) (same : c' = c) :
    DialogueAgrees d c' := same ▸ agrees

theorem agrees_open (dialogueId : DialogueId) (npcActorNetId speakerActorNetId : ActorNetId) :
    DialogueAgrees { active := true, dialogueId, npcActorNetId, speakerActorNetId }
      (proxySetDialogueOpen ⟨dialogueId, npcActorNetId, speakerActorNetId⟩) where
  dialogueId := rfl
  npc := rfl
  speaker := rfl
  active := rfl
  line := rfl
  count := rfl
  choices _ counted := absurd counted (Nat.not_lt_zero _)

theorem DialogueAgrees.setLine (agrees : DialogueAgrees d c) (dialogueId : DialogueId)
    (speakerActorNetId : ActorNetId) (text : Text) :
    DialogueAgrees { d with
        active := true, dialogueId, speakerActorNetId, currentLine := strncpyField 256 text }
      (proxySetDialogueLine ⟨dialogueId, speakerActorNetId⟩ (strncpyField 256 text) c) where
  dialogueId := rfl
  npc := agrees.npc
  speaker := rfl
  active := rfl
  line := strncpyField_kept 256 text
  count := agrees.count
  choices := agrees.choices

theorem SameScene.setLine (scene : SameScene d c) (text : Text) : SameScene d
    (proxySetDialogueLine ⟨d.dialogueId, d.speakerActorNetId⟩ text c) where
  dialogueId := rfl
  npc := scene.npc
  speaker := rfl

/-- A list of choices opens the dialogue for the client, and leaves it as it is for the service. -/
theorem DialogueAgrees.choose (agrees : DialogueAgrees d c) (active : d.active = true) (dialogueId : DialogueId)
    (choices : List MsgDialogueChoiceRecord) (texts : TextPointers) (choiceCount : UInt16) :
    let msg := choicesMessage (F := F) { dialogueId, choiceCount } choices texts
    DialogueAgrees (d.choose dialogueId choices texts choiceCount)
      (proxySetDialogueChoices msg.1 msg.2 c) := by
  intro msg
  have same := choiceCount_capped choiceCount
  refine ⟨⟨rfl, agrees.npc, agrees.speaker⟩, active.symm, agrees.line, same, fun i counted => ?_⟩
  have counted : i.val < (min choiceCount 12).toNat := counted
  have record := choicesMessage_record (F := F) { dialogueId, choiceCount } choices texts counted
  simp only [SessionDialogueState.choose, proxySetDialogueChoices, msg, choicesMessage, same,
    if_pos counted]
  exact ⟨congrArg MsgDialogueChoiceRecord.choiceId record,
    congrArg MsgDialogueChoiceRecord.enabled record⟩

theorem choose_choose (dialogueId : DialogueId) (choices : List MsgDialogueChoiceRecord)
    (texts : TextPointers) (choiceCount : UInt16) :
    (d.choose dialogueId choices texts choiceCount).choose dialogueId choices texts choiceCount =
      d.choose dialogueId choices texts choiceCount := by
  simp only [SessionDialogueState.choose, SessionDialogueState.mk.injEq, true_and, and_true]
  funext i
  split <;> rfl

theorem close_close (dialogueId : DialogueId) (reason : UInt8) :
    let closed := if d.dialogueId = dialogueId then d.close reason else d
    (if closed.dialogueId = dialogueId then closed.close reason else closed) = closed := by
  intro closed
  by_cases own : d.dialogueId = dialogueId
  · simp only [closed, if_pos own]
    exact if_pos own
  · simp only [closed, if_neg own]

theorem SameScene.close (scene : SameScene d c) (reason : UInt8) :
    DialogueAgrees (d.close reason) (proxySetDialogueClose ⟨d.dialogueId, reason, {}⟩ c) := by
  rw [proxySetDialogueClose, if_pos scene.dialogueId]
  exact ⟨⟨scene.dialogueId, scene.npc, scene.speaker⟩, rfl, rfl, rfl,
    fun _ counted => absurd counted (Nat.not_lt_zero _)⟩

theorem DialogueAgrees.setClose (agrees : DialogueAgrees d c) (dialogueId : DialogueId) (reason : UInt8) :
    DialogueAgrees (if d.dialogueId = dialogueId then d.close reason else d)
      (proxySetDialogueClose ⟨dialogueId, reason, {}⟩ c) := by
  split
  · rename_i own
    subst own
    exact agrees.toSameScene.close reason
  · rename_i other
    rw [proxySetDialogueClose, agrees.dialogueId, if_neg other]
    exact agrees

theorem DialogueAgrees.select (agrees : DialogueAgrees d c) (choiceId : UInt32) (playerId : PlayerId) :
    DialogueAgrees (d.select choiceId playerId) c :=
  ⟨⟨agrees.dialogueId, agrees.npc, agrees.speaker⟩, agrees.active, agrees.line, agrees.count,
    agrees.choices⟩

end Agreement

/-! ## What the host does -/

section Host
variable [CFloat F] [LawfulWireFloat F] {backend : RemoteProxyBackend F U} {connectionId : UInt32}
  {s : ServiceState F} {c : ClientState F U}

theorem deliver_toConnected (cleared : s.ctx.outputs = []) {type : MessageType} (flags : UInt16)
    {body : Body F type} (sendable : Sendable type body) (connected : Connected connectionId s.session)
    {P Q : ClientState F U → Prop} (first : ∀ c, P c → Q (applyMessage backend type body c).2)
    (again : ∀ c, Q c → Q (applyMessage backend type body c).2) (start : P c) :
    Q (deliver backend connectionId
      (s.post (toConnected s.session type flags body)).ctx.outputs c) := by
  have fits : ∀ p ∈ toConnected s.session type flags body, Sendable p.type p.body := by
    intro p member
    obtain ⟨_, _, _, rfl⟩ := mem_toConnected member
    exact sendable
  have room : (toConnected s.session type flags body).length ≤ maxOutputs :=
    (toConnected_length_le _ _ _ _).trans (by decide)
  rw [deliver_post backend connectionId cleared fits room]
  exact applyPosts_toConnected flags connected first again start

/-- An event of the host that the client follows: choices of a dialogue that takes place, which one
packet and the client's buffers have room for. -/
def Followed (F : Type) (dialogue : SessionDialogueState) : HostEvent → Prop
  | .dialogueChoices dialogueId choices texts choiceCount =>
      dialogue.active = true ∧ Sendable (F := F) .dialogueChoices
        (choicesMessage { dialogueId, choiceCount } choices texts)
  | _ => True

theorem deliver_answer (cleared : s.ctx.outputs = []) (connected : Connected connectionId s.session)
    {d : SessionDialogueState} (scene : SameScene d c.dialogue) (text : Text) :
    DialogueAgrees (d.close DialogueCloseReason.ended) (deliver backend connectionId
      (s.post (linePosts s.session d.dialogueId d.speakerActorNetId (some text) ++
        closePosts s.session d.dialogueId DialogueCloseReason.ended)).ctx.outputs c).dialogue := by
  have fits : ∀ p ∈ linePosts s.session d.dialogueId d.speakerActorNetId (some text) ++
      closePosts s.session d.dialogueId DialogueCloseReason.ended, Sendable p.type p.body := by
    intro p member
    rcases List.mem_append.mp member with line | close
    · obtain ⟨_, _, _, rfl⟩ := mem_toConnected line
      exact line_sendable _ _
    · obtain ⟨_, _, _, rfl⟩ := mem_toConnected close
      exact sendable_of_plainMessage rfl _
  have few : ∀ type flags (body : Body F type),
      (toConnected s.session type flags body).length ≤ 8 := fun _ _ _ => toConnected_length_le _ _ _ _
  have room : (linePosts s.session d.dialogueId d.speakerActorNetId (some text) ++
      closePosts s.session d.dialogueId DialogueCloseReason.ended).length ≤ maxOutputs := by
    rw [List.length_append, linePosts, closePosts]
    exact (Nat.add_le_add (few _ _ _) (few _ _ _)).trans (by decide)
  rw [deliver_post backend connectionId cleared fits room, List.foldl_append]
  refine applyPosts_toConnected (P := fun c => SameScene d c.dialogue)
    (Q := fun c => DialogueAgrees (d.close DialogueCloseReason.ended) c.dialogue) _ connected
    (fun _ before => before.close _)
    (fun _ before => SameScene.close ⟨before.dialogueId, before.npc, before.speaker⟩ _) ?_
  refine applyPosts_keep (Q := fun c => SameScene d c.dialogue) (fun p member c before => ?_) scene
  obtain ⟨_, _, _, rfl⟩ := mem_toConnected member
  exact before.setLine _

theorem hostStep_agrees (cleared : s.ctx.outputs = []) (connected : Connected connectionId s.session)
    (agrees : DialogueAgrees s.session.dialogue c.dialogue) {event : HostEvent}
    (noQuest : updatesQuest (F := F) (.host event) = false)
    (followed : Followed F s.session.dialogue event) :
    DialogueAgrees (hostStep s event).session.dialogue
      (deliver backend connectionId (hostStep s event).ctx.outputs c).dialogue := by
  rw [hostStep_dialogue]
  cases event with
  | dialogueOpen dialogueId npcActorNetId speakerActorNetId =>
      rw [hostStep, hemDialogueOpen_posts]
      exact deliver_toConnected cleared _ (sendable_of_plainMessage rfl _) connected
        (P := fun _ => True) (Q := fun c => DialogueAgrees _ c.dialogue)
        (fun _ _ => agrees_open dialogueId npcActorNetId speakerActorNetId)
        (fun _ _ => agrees_open dialogueId npcActorNetId speakerActorNetId) trivial
  | dialogueLine dialogueId speakerActorNetId text =>
      rw [hostStep, hemDialogueLine_posts]
      exact deliver_toConnected cleared _ (line_sendable _ _) connected
        (P := fun c => DialogueAgrees s.session.dialogue c.dialogue) (Q := fun c => DialogueAgrees _ c.dialogue)
        (fun _ before => before.setLine dialogueId speakerActorNetId (text.getD []))
        (fun _ before => before.setLine dialogueId speakerActorNetId (text.getD [])) agrees
  | dialogueChoices dialogueId choices texts choiceCount =>
      obtain ⟨active, sendable⟩ := followed
      rw [hostStep, hemDialogueChoices_posts]
      refine deliver_toConnected cleared _ sendable connected
        (P := fun c => DialogueAgrees s.session.dialogue c.dialogue) (Q := fun c => DialogueAgrees _ c.dialogue)
        (fun _ before => before.choose (F := F) active dialogueId choices texts choiceCount)
        (fun c before => ?_) agrees
      have again := before.choose (F := F) active dialogueId choices texts choiceCount
      exact again.of_eq (choose_choose dialogueId choices texts choiceCount)
  | dialogueClose dialogueId reason =>
      rw [hostStep, hemDialogueClose_posts]
      refine deliver_toConnected cleared _ (sendable_of_plainMessage rfl _) connected
        (P := fun c => DialogueAgrees s.session.dialogue c.dialogue) (Q := fun c => DialogueAgrees _ c.dialogue)
        (fun _ before => before.setClose dialogueId reason) (fun _ before => ?_) agrees
      have again := before.setClose dialogueId reason
      exact again.of_eq (close_close dialogueId reason)
  | questUpdate => cases noQuest
  | guestDialogueSelect playerId select =>
      by_cases offers : Offers s.session.dialogue select
      · obtain ⟨text, posted⟩ := hemApplyGuestDialogueSelect_posts playerId offers
        rw [hostStep, posted, HostEvent.dialogue, if_pos offers]
        exact deliver_answer cleared connected (agrees.select _ _).toSameScene text
      · have rejected := dppApplySelection_of_not_offers offers playerId
        rw [HostEvent.dialogue, if_neg offers]
        simp only [hostStep, hemApplyGuestDialogueSelect, rejected, cleared]
        exact agrees

end Host

/-! ## What the network does -/

/-- An actor of a dialogue that takes place. -/
def Involves (dialogue : SessionDialogueState) (actorNetId : ActorNetId) : Prop :=
  dialogue.active = true ∧
    (dialogue.npcActorNetId = actorNetId ∨ dialogue.speakerActorNetId = actorNetId)

instance (dialogue : SessionDialogueState) (actorNetId : ActorNetId) :
    Decidable (Involves dialogue actorNetId) := inferInstanceAs (Decidable (_ ∧ _))

/-- The actor was alive and lies dead in its slot. -/
def Killed (before after : SessionState F) (actorNetId : ActorNetId) : Prop :=
  ∃ i : Nat, ∃ target ∈ before.actors.slots[i]?, target.inUse = true ∧ target.dead = false ∧
    target.actorNetId = actorNetId ∧ ∃ slain ∈ after.actors.slots[i]?, slain.dead = true

/-- A message that leaves the dialogue alone. -/
def Quiet (dialogue : SessionDialogueState) : (type : MessageType) → Body F type → Prop
  | .deathEvent, msg => ¬ Involves dialogue msg.victimActorNetId
  | .actorDespawn, msg => ¬ Involves dialogue msg.actorNetId
  | .dialogueOpen, _ => False
  | .dialogueLine, _ => False
  | .dialogueChoices, _ => False
  | .dialogueClose, _ => False
  | _, _ => True

section Network
variable {d : SessionDialogueState}

omit [WireFloat F] in
theorem DialogueAgrees.interrupt {c : ProxyDialogueState} (agrees : DialogueAgrees d c) {actorNetId : ActorNetId}
    (apart : ¬ Involves d actorNetId) : c.interrupt actorNetId = c := by
  have untouched : ¬ (c.active && (c.npcActorNetId == actorNetId ||
      c.speakerActorNetId == actorNetId)) = true := by
    simp only [Bool.and_eq_true, Bool.or_eq_true, beq_iff_eq, agrees.active, agrees.npc,
      agrees.speaker]
    exact apart
  exact if_neg untouched

variable [CFloat F] {backend : RemoteProxyBackend F U} {connectionId : UInt32}

omit [WireFloat F] in
theorem DialogueAgrees.quiet {c : ClientState F U} (agrees : DialogueAgrees d c.dialogue) {type : MessageType}
    {body : Body F type} (quiet : Quiet d type body) :
    DialogueAgrees d (applyMessage backend type body c).2.dialogue := by
  cases type with
  | deathEvent =>
      have untouched : c.dialogue.interrupt body.victimActorNetId = c.dialogue :=
        agrees.interrupt quiet
      exact agrees.of_client untouched
  | actorDespawn =>
      have untouched : c.dialogue.interrupt body.actorNetId = c.dialogue := agrees.interrupt quiet
      simp only [applyMessage, paApplyActorDespawn]
      split
      · exact agrees.of_client untouched
      · exact agrees
  | actorState =>
      simp only [applyMessage, paApplyActorState]
      split
      · exact agrees
      · split <;> exact agrees
  | dialogueOpen => exact quiet.elim
  | dialogueLine => exact quiet.elim
  | dialogueChoices => exact quiet.elim
  | dialogueClose => exact quiet.elim
  | _ => exact agrees

omit [WireFloat F] in
theorem DialogueAgrees.posts {c : ClientState F U} (agrees : DialogueAgrees d c.dialogue) {posts : List (Post F)}
    (quiet : ∀ p ∈ posts, Quiet d p.type p.body) :
    DialogueAgrees d (posts.foldl (applyPost backend connectionId) c).dialogue :=
  applyPosts_keep (Q := fun c => DialogueAgrees d c.dialogue)
    (fun p member _ before => before.quiet (quiet p member)) agrees

omit [WireFloat F] [CFloat F] in
theorem answerPosts_quiet {s : SessionState F} {playerId : PlayerId} {profile : PlayerProfile} :
    ∀ p ∈ answerPosts s connectionId playerId profile, Quiet d p.type p.body := by
  intro p member
  simp only [answerPosts, welcomePost, profilePosts, List.mem_cons, List.not_mem_nil,
    or_false] at member
  rcases member with rfl | rfl | rfl | rfl | rfl <;> trivial

omit [WireFloat F] [CFloat F] in
theorem toConnected_quiet {s : SessionState F} {type : MessageType} {flags : UInt16}
    {body : Body F type} (quiet : Quiet d type body) :
    ∀ p ∈ toConnected s type flags body, Quiet d p.type p.body := by
  intro p member
  obtain ⟨_, _, _, rfl⟩ := mem_toConnected member
  exact quiet

theorem Outcome.quiet {store : ProfileStore} {env : TransportEnvelope} {s : ServiceState F}
    {posts : List (Post F)} {result : Bool × ServiceState F}
    (outcome : Outcome store env s posts result)
    (spared : ∀ a, Involves d a → ¬ Killed s.session result.2.session a) :
    ∀ p ∈ posts, Quiet d p.type p.body := by
  cases outcome with
  | ignored => exact fun p member => by cases member
  | seated _ _ _ isPrefix =>
      intro p member
      rcases List.mem_append.mp (isPrefix.subset member) with answer | replayed
      · exact answerPosts_quiet p answer
      · rcases mem_replayPosts replayed with ⟨_, _, _, _, rfl⟩ | ⟨_, _, _, rfl | rfl⟩ | ⟨_, _, _, rfl⟩ <;>
          trivial
  | kept _ _ personal =>
      intro p member
      obtain ⟨_, type, _, body⟩ := p
      rcases personal _ member with rfl | rfl <;> trivial
  | left _ posted => exact posted ▸ toConnected_quiet trivial
  | @hit player i target after _ byConnection target_at inUse alive _ shot posted =>
      subst posted
      intro p member
      obtain ⟨_, _, _, rfl | ⟨_, _, rfl⟩ | ⟨lethal, rfl⟩⟩ := mem_hitPosts member
      · trivial
      · trivial
      · intro involved
        refine spared _ involved ⟨i, target, target_at, inUse, alive, rfl, target.hit, ?_, ?_⟩
        · subst shot
          have struck : (s.session.actors.slots.modify i ActorRuntimeState.hit)[i]? =
              some target.hit := by
            rw [List.getElem?_modify_eq, target_at]
            rfl
          exact struck
        · exact (hit_dead_iff alive).mpr lethal
  | refused _ _ _ posted =>
      rw [posted, List.forall_mem_singleton]
      trivial
  | built _ _ _ _ posted =>
      rw [posted, List.forall_mem_cons]
      refine ⟨trivial, fun p member => ?_⟩
      obtain ⟨_, _, _, _, _, rfl⟩ := mem_objectSpawnPosts member
      trivial
  | moved _ _ posted => exact posted ▸ toConnected_quiet trivial
  | scrapped _ _ posted => exact posted ▸ toConnected_quiet trivial
  | selected => exact fun p member => by cases member

omit [WireFloat F] in
theorem tickPosts_quiet {s : ServiceState F}
    (spared : ∀ a ∈ actorsToDespawn (markedSession s), ¬ Involves d a) :
    ∀ p ∈ tickPosts s, Quiet d p.type p.body := by
  intro p member
  rcases List.mem_append.mp member with leaving | despawned
  · obtain ⟨_, _, _, rfl⟩ := mem_leavePosts leaving
    trivial
  · obtain ⟨a, listed, _, _, _, rfl⟩ := mem_despawnPosts despawned
    exact spared a listed

end Network

/-! ## Runs -/

section Runs
variable [CFloat F] {backend : RemoteProxyBackend F U} {connectionId : UInt32} {m : Mirror F U}

/-- Anything but a quest update happens to the service. -/
structure DialogueEvent (F : Type) where
  event : ServiceEvent F
  noQuest : updatesQuest event = false

/-- What an event queues for the connection, its client applies. -/
def dialogueStep (backend : RemoteProxyBackend F U) (connectionId : UInt32) (m : Mirror F U)
    (e : DialogueEvent F) : Mirror F U :=
  let s := serviceStep m.service e.event
  ⟨tlClearOutputs s, deliver backend connectionId s.ctx.outputs m.client⟩

/-- The host's choices are for a dialogue that takes place and fit a packet, and the actors of the
dialogue neither die nor despawn. -/
def Undisturbed (s : ServiceState F) : ServiceEvent F → Prop
  | .host event => Followed F s.session.dialogue event
  | .envelope store env => ∀ a, Involves s.session.dialogue a →
      ¬ Killed s.session (tlHandleEnvelope store env s).2.session a
  | .tick => ∀ a ∈ actorsToDespawn (markedSession s), ¬ Involves s.session.dialogue a
  | _ => True

/-- The client shows the session's dialogue, and nothing waits to be delivered. -/
structure DialogueMirrored (m : Mirror F U) : Prop where
  cleared : m.service.ctx.outputs = []
  agrees : DialogueAgrees m.service.session.dialogue m.client.dialogue

theorem dialogueStep_mirrored [LawfulWireFloat F] (mirrored : DialogueMirrored m)
    (connected : Connected connectionId m.service.session) (e : DialogueEvent F)
    (undisturbed : Undisturbed m.service e.event) :
    DialogueMirrored (dialogueStep backend connectionId m e) := by
  obtain ⟨cleared, agrees⟩ := mirrored
  obtain ⟨e, noQuest⟩ := e
  refine ⟨rfl, ?_⟩
  have silent : (serviceStep m.service e).ctx.outputs = [] →
      (serviceStep m.service e).session.dialogue = m.service.session.dialogue →
        DialogueAgrees (serviceStep m.service e).session.dialogue
          (deliver backend connectionId (serviceStep m.service e).ctx.outputs m.client).dialogue := by
    intro nothing same
    rw [nothing, same]
    exact agrees
  cases e with
  | host event => exact hostStep_agrees cleared connected agrees noQuest undisturbed
  | envelope store env =>
      obtain ⟨sequence, posts, outcome⟩ := tlHandleEnvelope_outcome store env m.service
      have quiet := Outcome.quiet outcome undisturbed
      obtain ⟨choiceId, playerId, dialogue⟩ := outcome.keepsDialogue.dialogue
      have outputs := outcome.outputs
      rw [show (received m.service sequence).ctx.outputs = [] from cleared, List.nil_append] at outputs
      change DialogueAgrees (tlHandleEnvelope store env m.service).2.session.dialogue
        (deliver backend connectionId (tlHandleEnvelope store env m.service).2.ctx.outputs
          m.client).dialogue
      rw [dialogue, outputs, queuedPosts, stamp_take,
        deliver_stamp backend connectionId _ _ fun p member =>
          outcome.sendable p (List.mem_of_mem_take member)]
      exact (DialogueAgrees.posts agrees fun p member =>
        quiet p (List.mem_of_mem_take member)).select choiceId playerId
  | tick =>
      have dialogue : (tlTick m.service).session.dialogue = m.service.session.dialogue := by
        rw [tlTick_posts, tickSession_frame]
      change DialogueAgrees (tlTick m.service).session.dialogue
        (deliver backend connectionId (tlTick m.service).ctx.outputs m.client).dialogue
      rw [dialogue, tlTick_outputs, cleared, List.nil_append, queuedPosts, stamp_take,
        deliver_stamp backend connectionId _ _ fun p member =>
          tickPosts_sendable _ p (List.mem_of_mem_take member)]
      exact DialogueAgrees.posts agrees fun p member =>
        tickPosts_quiet undisturbed p (List.mem_of_mem_take member)
  | clearOutputs => exact silent rfl rfl
  | popDialogueSelect =>
      obtain ⟨_, _, _, frame⟩ := popDialogueSelect_frame m.service
      refine silent ?_ ?_
      · rw [frame]
        exact cleared
      · rw [frame]
  | spawnHostile baseFormId position =>
      obtain ⟨_, frame⟩ := spawnHostile_frame m.service baseFormId position
      refine silent ?_ ?_
      · rw [frame]
        exact cleared
      · rw [frame]
  | allocSettlement settlementId center radius budget =>
      obtain ⟨_, frame⟩ := allocSettlement_frame m.service settlementId center radius budget
      refine silent ?_ ?_
      · rw [frame]
        exact cleared
      · rw [frame]
  | _ => exact silent cleared rfl

/-- As long as the client is connected and no step disturbs the dialogue, the client shows after every
step what the session has. -/
theorem run_dialogueMirrored [LawfulWireFloat F] (backend : RemoteProxyBackend F U)
    (connectionId : UInt32) {m : Mirror F U} (mirrored : DialogueMirrored m)
    {events : List (DialogueEvent F)}
    (connected : Along (dialogueStep backend connectionId)
      (fun m _ => Connected connectionId m.service.session) m events)
    (undisturbed : Along (dialogueStep backend connectionId)
      (fun m e => Undisturbed m.service e.event) m events) :
    Along (dialogueStep backend connectionId) (fun m e =>
      DialogueMirrored (dialogueStep backend connectionId m e)) m events := by
  have both : Along (dialogueStep backend connectionId) (fun m e =>
      Connected connectionId m.service.session ∧ Undisturbed m.service e.event) m events :=
    along_and.mpr ⟨connected, undisturbed⟩
  exact along_of_invariant
    (fun m e held meets => dialogueStep_mirrored held meets.1 e meets.2)
    (fun m e held meets => dialogueStep_mirrored held meets.1 e meets.2) mirrored both

end Runs

/-! ## One client -/

/-- Every packet for the connection is accepted in its turn. -/
def accepts [CFloat F] (backend : RemoteProxyBackend F U) (connectionId : UInt32) :
    List TransportOutput → ClientState F U → Bool
  | [], _ => true
  | output :: rest, c =>
      if output.connectionId = connectionId then
        let applied := pluginApplyPacket backend output.bytes c
        applied.1 && accepts backend connectionId rest applied.2
      else accepts backend connectionId rest c

/-- A service with one player, and the player's client. -/
def oneClient : Mirror Binary32 Unit where
  service := tlClearOutputs (run serviceStep bareService [helloFrom 100 [0x41]])
  client := freshClient 1 ()

def hostEvent (event : HostEvent) (noQuest : updatesQuest (F := Binary32) (.host event) = false) :
    DialogueEvent Binary32 := ⟨.host event, noQuest⟩

def opened : DialogueEvent Binary32 := hostEvent (.dialogueOpen 5 7 8) rfl
def chosen : DialogueEvent Binary32 :=
  hostEvent (.dialogueChoices 5 [⟨7, 1, {}⟩] none 1) rfl
def closed : DialogueEvent Binary32 := hostEvent (.dialogueClose 5 0) rfl

theorem oneClient_mirrored : DialogueMirrored oneClient := by
  have none : oneClient.service.session.dialogue.choiceCount.toNat = 0 := by decide +kernel
  refine ⟨rfl, ⟨by decide +kernel, by decide +kernel, by decide +kernel⟩, by decide +kernel,
    by decide +kernel, by decide +kernel, fun i counted => ?_⟩
  rw [none] at counted
  exact absurd counted (Nat.not_lt_zero i.val)

theorem run_dialogueMirrored_one :
    let events := [opened, chosen, ⟨.tick, rfl⟩, closed]
    Along (dialogueStep defaultBackend 100) (fun m e =>
      DialogueMirrored (dialogueStep defaultBackend 100 m e)) oneClient events := by
  intro events
  refine run_dialogueMirrored defaultBackend 100 oneClient_mirrored (by decide +kernel) ?_
  have choice : Text.Fits 256 [] := ⟨by decide, by decide⟩
  have fits : Sendable (F := Binary32) .dialogueChoices
      (choicesMessage { dialogueId := 5, choiceCount := 1 } [⟨7, 1, {}⟩] none) :=
    ⟨⟨rfl, by decide, List.forall_mem_singleton.mpr choice⟩, trivial, by decide⟩
  have nobody : actorsToDespawn (markedSession (dialogueStep defaultBackend 100
      (dialogueStep defaultBackend 100 oneClient opened) chosen).service) = [] := by decide +kernel
  refine ⟨trivial, ⟨by decide +kernel, fits⟩, ?_, trivial, trivial⟩
  exact fun a listed => absurd (nobody ▸ listed) List.not_mem_nil

/-- Choices behind the end of a dialogue open it for the client alone. -/
theorem run_dialogueMirrored_late :
    let events := [opened, closed, chosen]
    Along (dialogueStep defaultBackend 100) (fun m e =>
        Connected 100 m.service.session ∧
          accepts defaultBackend 100 (serviceStep m.service e.event).ctx.outputs m.client = true)
      oneClient events ∧
    (run (dialogueStep defaultBackend 100) oneClient events).client.dialogue.active = true ∧
    (run (dialogueStep defaultBackend 100) oneClient events).service.session.dialogue.active =
      false := by
  intro events
  exact ⟨by decide +kernel, by decide +kernel, by decide +kernel⟩

end F4MP.System

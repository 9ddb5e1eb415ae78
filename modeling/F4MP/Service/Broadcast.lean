import F4MP.Service.Post

/-!
# Texts of a broadcast

The adapters of the dialogue and quest broadcasts look for the texts behind as many records as the
header counts. The payload keeps them behind all the records that it has room for.
-/

namespace F4MP.Service
open SoftFloat Protocol

/-! ## Texts that are moved -/

section Shift
variable {R : Type}

/-- Records beside the texts that stand as many places before theirs as the payload has records to
spare. -/
def shiftTexts (capacity : Nat) (records : List (R × Text)) : List (R × Text) :=
  (records.map Prod.fst).zip
    ((List.replicate (capacity - records.length) [] ++ records.map Prod.snd).take records.length)

theorem shiftTexts_fst (capacity : Nat) (records : List (R × Text)) :
    (shiftTexts capacity records).map Prod.fst = records.map Prod.fst :=
  List.map_fst_zip (by simp)

theorem shiftTexts_snd (capacity : Nat) (records : List (R × Text)) :
    (shiftTexts capacity records).map Prod.snd =
      (List.replicate (capacity - records.length) [] ++ records.map Prod.snd).take
        records.length :=
  List.map_snd_zip (by simp)

theorem shiftTexts_length (capacity : Nat) (records : List (R × Text)) :
    (shiftTexts capacity records).length = records.length := by
  simpa using congrArg List.length (shiftTexts_fst capacity records)

theorem text_mem_shiftTexts {capacity : Nat} {records : List (R × Text)} {record : R × Text}
    (member : record ∈ shiftTexts capacity records) :
    record.2 = [] ∨ ∃ given ∈ records, record.2 = given.2 := by
  rcases List.mem_append.mp (List.mem_of_mem_take (List.of_mem_zip member).2) with spare | own
  · exact .inl (List.eq_of_mem_replicate spare)
  · obtain ⟨given, listed, same⟩ := List.mem_map.mp own
    exact .inr ⟨given, listed, same.symm⟩

theorem textsSize (records : List (R × Text)) :
    (records.map fun record => 10 + record.2.length).sum =
      10 * records.length + ((records.map Prod.snd).map List.length).sum := by
  induction records with
  | nil => rfl
  | cons record records ih =>
      simp only [List.map_cons, List.sum_cons, List.length_cons, ih]
      omega

theorem shiftTexts_size (capacity : Nat) (records : List (R × Text)) :
    ((shiftTexts capacity records).map fun record => 10 + record.2.length).sum ≤
      (records.map fun record => 10 + record.2.length).sum := by
  have whole : ∀ l : List Nat, (l.take records.length).sum + (l.drop records.length).sum = l.sum := by
    intro l
    rw [← List.sum_append, List.take_append_drop]
  have sizes := whole ((List.replicate (capacity - records.length) [] ++
    records.map Prod.snd).map List.length)
  rw [← List.map_take] at sizes
  simp only [List.map_append, List.sum_append, List.map_replicate, List.length_nil,
    List.sum_replicate_nat, Nat.mul_zero] at sizes
  rw [textsSize, textsSize, shiftTexts_length, shiftTexts_snd]
  omega

theorem replicate_append_take_iff {k : Nat} (spare : 0 < k) (texts : List Text) :
    (List.replicate k [] ++ texts).take texts.length = texts ↔ ∀ text ∈ texts, text = [] := by
  constructor
  · intro same
    have early : ∀ i (inside : i < texts.length), texts[i] = [] := by
      intro i
      induction i using Nat.strong_induction_on with
      | _ i ih =>
          intro inside
          have entry : ((List.replicate k [] ++ texts).take texts.length)[i]? = texts[i]? := by
            rw [same]
          rw [List.getElem?_take_of_lt inside, List.getElem?_eq_getElem inside] at entry
          by_cases first : i < k
          · rw [List.getElem?_append_left (by simpa using first)] at entry
            rw [List.getElem?_replicate, if_pos first] at entry
            exact (Option.some.inj entry).symm
          · have before : i - k < texts.length := by omega
            rw [List.getElem?_append_right (by simpa using first), List.length_replicate,
              List.getElem?_eq_getElem before, ih (i - k) (by omega) before] at entry
            exact (Option.some.inj entry).symm
    intro text member
    obtain ⟨i, inside, rfl⟩ := List.mem_iff_getElem.mp member
    exact early i inside
  · intro empty
    rw [List.eq_replicate_of_mem empty, List.length_replicate, List.replicate_append_replicate,
      List.take_replicate, Nat.min_eq_left (Nat.le_add_left _ k)]

theorem shiftTexts_eq_iff {capacity : Nat} {records : List (R × Text)}
    (room : records.length ≤ capacity) :
    shiftTexts capacity records = records ↔
      records.length = capacity ∨ ∀ record ∈ records, record.2 = [] := by
  have split : shiftTexts capacity records = records ↔
      (List.replicate (capacity - records.length) [] ++ records.map Prod.snd).take records.length =
        records.map Prod.snd := by
    rw [← shiftTexts_snd]
    constructor
    · intro same
      rw [same]
    · intro same
      rw [← List.zip_unzip (shiftTexts capacity records), List.unzip_fst, List.unzip_snd, same,
        shiftTexts_fst, ← List.unzip_fst, ← List.unzip_snd, List.zip_unzip]
  rw [split]
  rcases Nat.eq_or_lt_of_le room with full | spare
  · subst full
    simp [List.take_of_length_le]
  · have shifted := replicate_append_take_iff (Nat.sub_pos_of_lt spare) (records.map Prod.snd)
    rw [List.length_map] at shifted
    rw [shifted, List.forall_mem_map]
    constructor
    · exact .inr
    · rintro (full | empty)
      · omega
      · exact empty

theorem payloadCells_texts {capacity : Nat} {records : List (R × Text)} (zero : R)
    (room : records.length ≤ capacity) :
    let cells := payloadCells capacity records.length zero (records.map Prod.fst)
      (textPointers records)
    (cells.filterMap PayloadCell.asRecord?).zip (textsOrEmpty
      (some ((cells.drop records.length).map PayloadCell.asPointer)) records.length) =
      shiftTexts capacity records := by
  intro cells
  have kept : cells.filterMap PayloadCell.asRecord? = (List.range capacity).map fun i =>
      if i < records.length then (records.map Prod.fst).getD i zero else zero := by
    simp [cells, payloadCells, List.filterMap_append, List.filterMap_map, Function.comp_def,
      PayloadCell.asRecord?]
  apply List.ext_getElem
  · simp [kept, textsOrEmpty, shiftTexts_length, room]
  · intro i inside inside'
    rw [shiftTexts_length] at inside'
    have bound : i < (List.replicate (capacity - records.length) [] ++
        records.map Prod.snd).length := by
      simp only [List.length_append, List.length_map]
      omega
    have pointer : (cells[records.length + i]?.map PayloadCell.asPointer).join.getD [] =
        (List.replicate (capacity - records.length) [] ++ records.map Prod.snd)[i] := by
      by_cases spare : i < capacity - records.length
      · have front : records.length + i < capacity := by omega
        simp [cells, payloadCells, List.getElem?_append, front, spare, PayloadCell.asPointer]
      · have back : ¬ records.length + i < capacity := by omega
        have place : records.length + i - capacity = i - (capacity - records.length) := by omega
        have counted : i - (capacity - records.length) < records.length := by omega
        have listed : i - (capacity - records.length) < capacity := by omega
        simp [cells, payloadCells, List.getElem?_append, List.getElem_append, back, spare, place,
          counted, listed, textPointers, PayloadCell.asPointer]
    simp [kept, shiftTexts, textsOrEmpty, inside', pointer]

end Shift

/-! ## What a broadcast queues -/

variable {F : Type} [WireFloat F]

/-- Every connected player is queued a packet that decodes to `body`, while there is room. -/
def Broadcasts (s : SessionState F) (type : MessageType) (body : Body F type)
    (before after : TransportLoopContext) : Prop :=
  ∃ queued, after.outputs = before.outputs ++ queued ∧
    queued.map (·.connectionId) = (connections s).take (maxOutputs - before.outputs.length) ∧
    ∀ output ∈ queued, Carries output.bytes type body

section Framed
variable {enc : Write} (s : SessionState F) (type : MessageType) (flags : UInt16)

omit [WireFloat F] in
theorem tlBroadcast_oversize {n : Nat} (adds : Wire.Adds enc n)
    (large : f4mpMaxPacketSize < packetHeaderSize + messageHeaderSize + n)
    (ctx : TransportLoopContext) : (tlBroadcast s type flags enc ctx).outputs = ctx.outputs := by
  rw [tlBroadcast]
  induction s.players.slots generalizing ctx with
  | nil => rfl
  | cons p rest ih =>
      rw [List.foldl_cons, ih]
      split
      · exact tlSendSingle_oversize adds large s.sessionId p.connectionId type flags ctx
      · rfl

omit [WireFloat F] in
theorem tlBroadcast_emits {payload : List UInt8} (payloadEmits : Wire.Emits enc payload)
    (fits : packetHeaderSize + messageHeaderSize + payload.length ≤ f4mpMaxPacketSize)
    (ctx : TransportLoopContext) :
    ∃ queued, (tlBroadcast s type flags enc ctx).outputs = ctx.outputs ++ queued ∧
      queued.map (·.connectionId) = (connections s).take (maxOutputs - ctx.outputs.length) ∧
      ∀ output ∈ queued, ∃ sequence,
        output.bytes = framedBytes s.sessionId sequence type flags payload := by
  rw [tlBroadcast, connections]
  induction s.players.slots generalizing ctx with
  | nil => exact ⟨[], (List.append_nil _).symm, by simp, by simp⟩
  | cons p rest ih =>
      cases connected : p.connected with
      | false =>
          simp only [List.foldl_cons, connected, Bool.false_eq_true, if_false,
            List.filter_cons_of_neg, not_false_eq_true]
          exact ih ctx
      | true =>
          obtain ⟨headerLength, headerEmits, _⟩ :=
            sentPacketHeader_bytes s.sessionId (ctx.transport.lastTxSequence + 1)
          have sent := tlSendSingle_emits headerEmits headerLength payloadEmits fits p.connectionId
            type flags
          rw [← framedBytes] at sent
          simp only [List.foldl_cons, connected, if_true, List.filter_cons_of_pos, sent,
            List.map_cons]
          obtain ⟨queued, appended, receivers, framed⟩ := ih (posted ctx ⟨p.connectionId,
            framedBytes s.sessionId (ctx.transport.lastTxSequence + 1) type flags payload⟩)
          rw [appended]
          by_cases room : ctx.outputs.length < maxOutputs
          · obtain ⟨free, amount⟩ : ∃ free, maxOutputs - ctx.outputs.length = free + 1 :=
              ⟨maxOutputs - ctx.outputs.length - 1, by omega⟩
            simp only [posted, if_pos room, List.length_append, List.length_singleton,
              List.append_assoc, List.singleton_append] at receivers ⊢
            refine ⟨_, rfl, ?_, List.forall_mem_cons.mpr ⟨⟨_, rfl⟩, framed⟩⟩
            rw [amount, List.take_succ_cons, List.map_cons, receivers]
            congr 2
            omega
          · simp only [posted, if_neg room] at receivers ⊢
            refine ⟨queued, rfl, ?_, framed⟩
            rw [receivers, Nat.sub_eq_zero_of_le (Nat.not_lt.mp room), List.take_zero,
              List.take_zero]

end Framed

section Queued
variable [LawfulWireFloat F]

/-- A broadcast of a message that fits arrives as that message and no other. -/
theorem tlBroadcast_broadcasts_iff {s : SessionState F} {type : MessageType}
    {body sent : Body F type} (sendable : Sendable type sent) (flags : UInt16)
    (ctx : TransportLoopContext) :
    Broadcasts s type body ctx (tlBroadcast s type flags (encodeBody type sent) ctx) ↔
      sent = body ∨ connections s = [] ∨ maxOutputs ≤ ctx.outputs.length := by
  obtain ⟨bodyLength, bodyEmits, _⟩ := sendable.payload
  obtain ⟨queued, appended, receivers, framed⟩ :=
    tlBroadcast_emits s type flags bodyEmits (bodyLength ▸ sendable.packet_fits) ctx
  have carried : ∀ output ∈ queued, Carries output.bytes type sent := by
    intro output member
    obtain ⟨sequence, bytes⟩ := framed output member
    rw [bytes, ← packetBytes_eq]
    exact packetBytes_carries sendable s.sessionId sequence flags
  constructor
  · rintro ⟨queued', appended', _, carried'⟩
    obtain rfl : queued = queued' := List.append_cancel_left (appended.symm.trans appended')
    cases empty : queued with
    | nil =>
        rw [empty, List.map_nil, eq_comm, List.take_eq_nil_iff] at receivers
        rcases receivers with full | nobody
        · exact .inr (.inr (by omega))
        · exact .inr (.inl nobody)
    | cons output rest =>
        have member : output ∈ queued := empty ▸ List.mem_cons_self
        exact .inl ((carried output member).unique (carried' output member))
  · intro holds
    refine ⟨queued, appended, receivers, fun output member => ?_⟩
    rcases holds with rfl | nobody | full
    · exact carried output member
    · rw [nobody, List.take_nil, List.map_eq_nil_iff] at receivers
      rw [receivers] at member
      cases member
    · rw [Nat.sub_eq_zero_of_le full, List.take_zero, List.map_eq_nil_iff] at receivers
      rw [receivers] at member
      cases member

/-! ## Dialogue choices and quest updates -/

omit [LawfulWireFloat F] in
theorem encodeDialogueChoicesAdapter_shift {h : MsgDialogueChoicesHeader}
    {choices : List (MsgDialogueChoiceRecord × Text)}
    (counted : choices.length = h.choiceCount.toNat) (room : choices.length ≤ 12) :
    encodeDialogueChoicesAdapter h (payloadCells 12 choices.length {} (choices.map Prod.fst)
      (textPointers choices)) =
      encodeBody (F := F) .dialogueChoices (h, shiftTexts 12 choices) := by
  simp only [encodeDialogueChoicesAdapter, encodeBody, encodeMsgDialogueChoices, ← counted]
  rw [payloadCells_texts {} room, zip_textsOrEmpty (shiftTexts_length 12 choices)]

omit [LawfulWireFloat F] in
theorem encodeQuestUpdateAdapter_shift {h : MsgQuestUpdateHeader}
    {objs : List (MsgQuestObjectiveRecord × Text)}
    (counted : objs.length = h.objectiveCount.toNat) (room : objs.length ≤ 16) :
    encodeQuestUpdateAdapter h (payloadCells 16 objs.length {} (objs.map Prod.fst)
      (textPointers objs)) =
      encodeBody (F := F) .questUpdate (h, shiftTexts 16 objs) := by
  simp only [encodeQuestUpdateAdapter, encodeBody, encodeMsgQuestUpdate, ← counted]
  rw [payloadCells_texts {} room, zip_textsOrEmpty (shiftTexts_length 16 objs)]

theorem shiftTexts_fits {R : Type} {capacity : Nat} {records : List (R × Text)}
    (fits : ∀ record ∈ records, record.2.Fits 256) :
    ∀ record ∈ shiftTexts capacity records, record.2.Fits 256 := by
  intro record member
  rcases text_mem_shiftTexts member with empty | ⟨given, listed, same⟩
  · rw [empty]
    exact ⟨List.not_mem_nil, by decide⟩
  · exact same ▸ fits given listed

theorem tlBroadcastDialogueChoices_broadcasts_iff (s : SessionState F)
    {h : MsgDialogueChoicesHeader} {choices : List (MsgDialogueChoiceRecord × Text)}
    (sendable : Sendable (F := F) .dialogueChoices (h, choices)) (ctx : TransportLoopContext) :
    Broadcasts s .dialogueChoices (h, choices) ctx
        (tlBroadcastDialogueChoices s h (choices.map Prod.fst) (textPointers choices) ctx) ↔
      choices.length = 12 ∨ (∀ choice ∈ choices, choice.2 = []) ∨ connections s = [] ∨
        maxOutputs ≤ ctx.outputs.length := by
  obtain ⟨counted, capped, fits⟩ := sendable.within
  have count : min h.choiceCount 12 = h.choiceCount := if_pos capped
  have room : choices.length ≤ 12 := counted ▸ UInt16.le_iff_toNat_le.mp capped
  have moved : Sendable (F := F) .dialogueChoices (h, shiftTexts 12 choices) :=
    ⟨⟨(shiftTexts_length 12 choices).trans counted, capped, shiftTexts_fits fits⟩, trivial,
      Nat.le_trans (Nat.add_le_add_left (shiftTexts_size 12 choices) 8) sendable.fits⟩
  simp only [tlBroadcastDialogueChoices, count, ← counted]
  rw [encodeDialogueChoicesAdapter_shift (F := F) counted room, tlBroadcast_broadcasts_iff moved,
    Prod.mk.injEq, eq_self_iff_true, true_and, shiftTexts_eq_iff room, or_assoc]

theorem tlBroadcastQuestUpdate_broadcasts_iff (s : SessionState F) {h : MsgQuestUpdateHeader}
    {objs : List (MsgQuestObjectiveRecord × Text)}
    (sendable : Sendable (F := F) .questUpdate (h, objs)) (ctx : TransportLoopContext) :
    Broadcasts s .questUpdate (h, objs) ctx
        (tlBroadcastQuestUpdate s h (objs.map Prod.fst) (textPointers objs) ctx) ↔
      objs.length = 16 ∨ (∀ obj ∈ objs, obj.2 = []) ∨ connections s = [] ∨
        maxOutputs ≤ ctx.outputs.length := by
  obtain ⟨counted, capped, fits⟩ := sendable.within
  have count : min h.objectiveCount 16 = h.objectiveCount := if_pos capped
  have room : objs.length ≤ 16 := counted ▸ UInt8.le_iff_toNat_le.mp capped
  have moved : Sendable (F := F) .questUpdate (h, shiftTexts 16 objs) :=
    ⟨⟨(shiftTexts_length 16 objs).trans counted, capped, shiftTexts_fits fits⟩, trivial,
      Nat.le_trans (Nat.add_le_add_left (shiftTexts_size 16 objs) 8) sendable.fits⟩
  simp only [tlBroadcastQuestUpdate, count, ← counted]
  rw [encodeQuestUpdateAdapter_shift (F := F) counted room, tlBroadcast_broadcasts_iff moved,
    Prod.mk.injEq, eq_self_iff_true, true_and, shiftTexts_eq_iff room, or_assoc]

/-- The texts of dialogue choices and of quest updates, each at most 255 bytes long and together in
one packet, arrive as they were given exactly if the payload is full, there is no text to move, or
nobody is sent anything. -/
theorem tlBroadcast_texts_iff (s : SessionState F) (ctx : TransportLoopContext) :
    (∀ h choices, Sendable (F := F) .dialogueChoices (h, choices) →
      (Broadcasts s .dialogueChoices (h, choices) ctx
          (tlBroadcastDialogueChoices s h (choices.map Prod.fst) (textPointers choices) ctx) ↔
        choices.length = 12 ∨ (∀ choice ∈ choices, choice.2 = []) ∨ connections s = [] ∨
          maxOutputs ≤ ctx.outputs.length)) ∧
    ∀ h objs, Sendable (F := F) .questUpdate (h, objs) →
      (Broadcasts s .questUpdate (h, objs) ctx
          (tlBroadcastQuestUpdate s h (objs.map Prod.fst) (textPointers objs) ctx) ↔
        objs.length = 16 ∨ (∀ obj ∈ objs, obj.2 = []) ∨ connections s = [] ∨
          maxOutputs ≤ ctx.outputs.length) :=
  ⟨fun _ _ sendable => tlBroadcastDialogueChoices_broadcasts_iff s sendable ctx,
    fun _ _ sendable => tlBroadcastQuestUpdate_broadcasts_iff s sendable ctx⟩

end Queued

/-- A dialogue with one choice and a quest with one objective, to one player. -/
theorem tlBroadcast_texts_iff_one :
    let fresh : ServiceState Binary32 := freshService 1 15 20 []
    let s := (smJoinSession fresh.session 1 100).getD fresh.session
    let choices : List (MsgDialogueChoiceRecord × Text) := [({ choiceId := 1 }, [0x59])]
    let objs : List (MsgQuestObjectiveRecord × Text) := [({ objectiveId := 1 }, [0x5A])]
    (Broadcasts s .dialogueChoices (⟨7, 1, 0⟩, choices) fresh.ctx (tlBroadcastDialogueChoices s
        ⟨7, 1, 0⟩ (choices.map Prod.fst) (textPointers choices) fresh.ctx) ↔
      choices.length = 12 ∨ (∀ choice ∈ choices, choice.2 = []) ∨ connections s = [] ∨
        maxOutputs ≤ fresh.ctx.outputs.length) ∧
    (Broadcasts s .questUpdate (⟨9, 10, 1, 1⟩, objs) fresh.ctx (tlBroadcastQuestUpdate s
        ⟨9, 10, 1, 1⟩ (objs.map Prod.fst) (textPointers objs) fresh.ctx) ↔
      objs.length = 16 ∨ (∀ obj ∈ objs, obj.2 = []) ∨ connections s = [] ∨
        maxOutputs ≤ fresh.ctx.outputs.length) := by
  intro fresh s choices objs
  have choice : Text.Fits 256 [0x59] := ⟨by decide, by decide⟩
  have obj : Text.Fits 256 [0x5A] := ⟨by decide, by decide⟩
  exact ⟨(tlBroadcast_texts_iff s fresh.ctx).1 ⟨7, 1, 0⟩ choices
      ⟨⟨rfl, by decide, List.forall_mem_singleton.mpr choice⟩, trivial, by decide⟩,
    (tlBroadcast_texts_iff s fresh.ctx).2 ⟨9, 10, 1, 1⟩ objs
      ⟨⟨rfl, by decide, List.forall_mem_singleton.mpr obj⟩, trivial, by decide⟩⟩

/-- The text of a single choice is lost. -/
theorem tlBroadcastDialogueChoices_textless :
    let fresh : ServiceState Binary32 := freshService 1 15 20 []
    let s := (smJoinSession fresh.session 1 100).getD fresh.session
    let choices : List (MsgDialogueChoiceRecord × Text) := [({ choiceId := 1 }, [0x59])]
    ¬ Broadcasts s .dialogueChoices (⟨7, 1, 0⟩, choices) fresh.ctx (tlBroadcastDialogueChoices s
      ⟨7, 1, 0⟩ (choices.map Prod.fst) (textPointers choices) fresh.ctx) := by
  intro fresh s choices
  have choice : Text.Fits 256 [0x59] := ⟨by decide, by decide⟩
  have sendable : Sendable (F := Binary32) .dialogueChoices (⟨7, 1, 0⟩, choices) :=
    ⟨⟨rfl, by decide, List.forall_mem_singleton.mpr choice⟩, trivial, by decide⟩
  rw [tlBroadcastDialogueChoices_broadcasts_iff s sendable]
  decide +kernel

end F4MP.Service

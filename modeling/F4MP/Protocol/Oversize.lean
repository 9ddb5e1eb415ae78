import F4MP.Protocol.Framing

/-!
# Texts that a receiver has no room for

The encoders of dialogue choices and quest updates bound their texts by the length field alone. A
decoder has 256 bytes for each and refuses a message with a text that does not fit.
-/

namespace F4MP.Protocol
open Wire

/-! ## Strings -/

theorem string_adds {text : Text} (noNul : 0 ∉ text) :
    Adds (pwWriteStringU16 text) (2 + text.length) := by
  simp only [pwWriteStringU16, cString_whole noNul]
  split
  · intro w w' done
    cases done
  · exact (u16_roundTrips _).adds.bind (pwWriteBytes_emits text).adds

theorem string_refused {text : Text} {dstCapacity : Nat} (noNul : 0 ∉ text)
    (long : dstCapacity ≤ text.length) (short : text.length ≤ 65535) :
    Refused (pwWriteStringU16 text) (prReadStringU16 dstCapacity) (2 + text.length) := by
  have len : (UInt16.ofNat text.length).toNat = text.length := by
    rw [UInt16.toNat_ofNat']
    omega
  have full : dstCapacity = 0 ∨ dstCapacity < text.length + 1 := by omega
  simp only [pwWriteStringU16, cString_whole noNul, if_neg (Nat.not_lt.mpr short)]
  refine (u16_roundTrips _).refused ?_
  simp only [len, if_pos full]
  exact ⟨text, rfl, pwWriteBytes_emits text, fun _ _ _ => rfl⟩

/-! ## Records -/

theorem dialogueChoice_adds {choice : MsgDialogueChoiceRecord × Text} (noNul : 0 ∉ choice.2) :
    Adds (encodeDialogueChoice choice) (10 + choice.2.length) :=
  .size (.bind (u32_roundTrips _).adds <| .bind (u8_roundTrips _).adds <|
    .bind (pad3_roundTrips _).adds <| string_adds noNul) (by omega)

theorem questObjective_adds {obj : MsgQuestObjectiveRecord × Text} (noNul : 0 ∉ obj.2) :
    Adds (encodeQuestObjective obj) (10 + obj.2.length) :=
  .size (.bind (u32_roundTrips _).adds <| .bind (u8_roundTrips _).adds <|
    .bind (pad3_roundTrips _).adds <| string_adds noNul) (by omega)

theorem dialogueChoice_refused {choice : MsgDialogueChoiceRecord × Text} (noNul : 0 ∉ choice.2)
    (long : 256 ≤ choice.2.length) (short : choice.2.length ≤ 65535) :
    Refused (encodeDialogueChoice choice) decodeDialogueChoice (10 + choice.2.length) :=
  .size ((u32_roundTrips _).refused <| (u8_roundTrips _).refused <| (pad3_roundTrips _).refused <|
    .last (string_refused noNul long short) _) (by omega)

theorem questObjective_refused {obj : MsgQuestObjectiveRecord × Text} (noNul : 0 ∉ obj.2)
    (long : 256 ≤ obj.2.length) (short : obj.2.length ≤ 65535) :
    Refused (encodeQuestObjective obj) decodeQuestObjective (10 + obj.2.length) :=
  .size ((u32_roundTrips _).refused <| (u8_roundTrips _).refused <| (pad3_roundTrips _).refused <|
    .last (string_refused noNul long short) _) (by omega)

theorem counted_refused {α γ : Type} {w : α → Write} {p : Read α} {n : α → Nat} {records : List α}
    {count : Nat} {tooMany : Prop} [Decidable tooMany] {f : List α → Read γ}
    (record : ∀ a ∈ records, RoundTrips (w a) p a (n a) ∨ Refused (w a) p (n a)) {a : α}
    (member : a ∈ records) (refused : Refused (w a) p (n a)) (within : ¬ tooMany)
    (counted : records.length = count) :
    Refused (writeEach w records) (if tooMany then failure else readTimes p count >>= f)
      (records.map n).sum := by
  subst counted
  rw [if_neg within]
  exact (Refused.each record member refused).last f

/-! ## Messages -/

section Messages
variable {F : Type} [SoftFloat.WireFloat F]

theorem dialogueChoices_adds {h : MsgDialogueChoicesHeader}
    {choices : List (MsgDialogueChoiceRecord × Text)}
    (counted : choices.length = h.choiceCount.toNat) (noNul : ∀ choice ∈ choices, 0 ∉ choice.2) :
    Adds (encodeBody (F := F) .dialogueChoices (h, choices))
      (bodySize (F := F) .dialogueChoices (h, choices)) := by
  simp only [encodeBody, encodeMsgDialogueChoices, zip_textsOrEmpty counted, bodySize]
  exact .size (.bind (u32_roundTrips _).adds <| .bind (u16_roundTrips _).adds <|
    .bind (u16_roundTrips _).adds <|
    .each fun choice member => dialogueChoice_adds (noNul choice member)) (by omega)

theorem questUpdate_adds {h : MsgQuestUpdateHeader}
    {objs : List (MsgQuestObjectiveRecord × Text)}
    (counted : objs.length = h.objectiveCount.toNat) (noNul : ∀ obj ∈ objs, 0 ∉ obj.2) :
    Adds (encodeBody (F := F) .questUpdate (h, objs))
      (bodySize (F := F) .questUpdate (h, objs)) := by
  simp only [encodeBody, encodeMsgQuestUpdate, zip_textsOrEmpty counted, bodySize]
  exact .size (.bind (u32_roundTrips _).adds <| .bind (u16_roundTrips _).adds <|
    .bind (u8_roundTrips _).adds <| .bind (u8_roundTrips _).adds <|
    .each fun obj member => questObjective_adds (noNul obj member)) (by omega)

/-! ### Messages that fit a packet and not their receiver -/

omit [SoftFloat.WireFloat F] in
theorem short_of_fits {R : Type} {records : List (R × Text)}
    (fits : 8 + (records.map fun record => 10 + record.2.length).sum ≤
      f4mpMaxPacketSize - packetHeaderSize - messageHeaderSize) :
    ∀ record ∈ records, record.2.length ≤ 65535 := by
  intro record member
  have size : 10 + record.2.length ≤ (records.map fun record => 10 + record.2.length).sum :=
    List.single_le_sum (fun _ _ => Nat.zero_le _) _ (List.mem_map_of_mem member)
  simp only [packetHeaderSize, messageHeaderSize, f4mpMaxPacketSize] at fits
  omega

theorem exists_long {R : Type} {records : List (R × Text)}
    (noNul : ∀ record ∈ records, 0 ∉ record.2)
    (unfit : ¬ ∀ record ∈ records, record.2.Fits 256) :
    ∃ record ∈ records, 256 ≤ record.2.length := by
  by_contra none
  refine unfit fun record member => ⟨noNul record member, ?_⟩
  exact Nat.not_le.mp fun long => none ⟨record, member, long⟩

theorem dialogueChoices_refused {h : MsgDialogueChoicesHeader}
    {choices : List (MsgDialogueChoiceRecord × Text)}
    (counted : choices.length = h.choiceCount.toNat) (capped : h.choiceCount ≤ 12)
    (noNul : ∀ choice ∈ choices, 0 ∉ choice.2)
    (fits : bodySize (F := F) .dialogueChoices (h, choices) ≤
      f4mpMaxPacketSize - packetHeaderSize - messageHeaderSize)
    (unsendable : ¬ Sendable (F := F) .dialogueChoices (h, choices)) :
    Refused (encodeBody (F := F) .dialogueChoices (h, choices))
      (decodeBody (F := F) receiveCaps .dialogueChoices)
      (bodySize (F := F) .dialogueChoices (h, choices)) := by
  have short := short_of_fits fits
  obtain ⟨choice, member, long⟩ := exists_long noNul fun short =>
    unsendable ⟨⟨counted, capped, short⟩, trivial, fits⟩
  have record : ∀ choice ∈ choices,
      RoundTrips (encodeDialogueChoice choice) decodeDialogueChoice choice (10 + choice.2.length) ∨
        Refused (encodeDialogueChoice choice) decodeDialogueChoice (10 + choice.2.length) := by
    intro choice member
    rcases Nat.lt_or_ge choice.2.length 256 with fits | long
    · exact .inl (dialogueChoice_roundTrips choice ⟨noNul choice member, fits⟩)
    · exact .inr (dialogueChoice_refused (noNul choice member) long (short choice member))
  have refused := dialogueChoice_refused (noNul choice member) long (short choice member)
  simp only [encodeBody, encodeMsgDialogueChoices, zip_textsOrEmpty counted, bodySize]
  exact .size ((u32_roundTrips _).refused <| (u16_roundTrips _).refused <|
    (u16_roundTrips _).refused <|
    counted_refused record member refused (UInt16.not_lt.mpr capped) counted) (by omega)

theorem questUpdate_refused {h : MsgQuestUpdateHeader}
    {objs : List (MsgQuestObjectiveRecord × Text)}
    (counted : objs.length = h.objectiveCount.toNat) (capped : h.objectiveCount ≤ 16)
    (noNul : ∀ obj ∈ objs, 0 ∉ obj.2)
    (fits : bodySize (F := F) .questUpdate (h, objs) ≤
      f4mpMaxPacketSize - packetHeaderSize - messageHeaderSize)
    (unsendable : ¬ Sendable (F := F) .questUpdate (h, objs)) :
    Refused (encodeBody (F := F) .questUpdate (h, objs))
      (decodeBody (F := F) receiveCaps .questUpdate)
      (bodySize (F := F) .questUpdate (h, objs)) := by
  have short := short_of_fits fits
  obtain ⟨obj, member, long⟩ := exists_long noNul fun short =>
    unsendable ⟨⟨counted, capped, short⟩, trivial, fits⟩
  have record : ∀ obj ∈ objs,
      RoundTrips (encodeQuestObjective obj) decodeQuestObjective obj (10 + obj.2.length) ∨
        Refused (encodeQuestObjective obj) decodeQuestObjective (10 + obj.2.length) := by
    intro obj member
    rcases Nat.lt_or_ge obj.2.length 256 with fits | long
    · exact .inl (questObjective_roundTrips obj ⟨noNul obj member, fits⟩)
    · exact .inr (questObjective_refused (noNul obj member) long (short obj member))
  have refused := questObjective_refused (noNul obj member) long (short obj member)
  simp only [encodeBody, encodeMsgQuestUpdate, zip_textsOrEmpty counted, bodySize]
  exact .size ((u32_roundTrips _).refused <| (u16_roundTrips _).refused <|
    (u8_roundTrips _).refused <| (u8_roundTrips _).refused <|
    counted_refused record member refused (UInt8.not_lt.mpr capped) counted) (by omega)

end Messages

end F4MP.Protocol

import F4MP.Protocol.RoundTrip

/-!
# How much of a payload is read

`payloadSize` reads the size of a message off its bytes: the fixed size of its type, and the lengths
and the counts that stand in front of its strings and records.
-/

namespace F4MP.Protocol
open SoftFloat Wire

/-! ## Primitives -/

theorem prReadBytes_yields (len : Nat) : Yields (prReadBytes len) len (List.take len) := by
  intro r r' bytes done
  change prReadBytes len r = _ at done
  unfold prReadBytes at done
  split at done
  · cases done
  · rename_i inside
    obtain ⟨same, rfl⟩ := Prod.mk.inj done
    rw [Bool.or_eq_true, not_or, decide_eq_true_eq] at inside
    refine ⟨?_, rfl, (Option.some.inj same).symm⟩
    change len ≤ (r.buffer.drop r.offset).length
    rw [List.length_drop]
    omega

/-- A 16-bit number at the front of some bytes. -/
def u16At (bs : List UInt8) : UInt16 := UInt16.ofNat (leValue (bs.take 2))

def u8At (bs : List UInt8) : UInt8 := UInt8.ofNat (leValue (bs.take 1))

theorem prReadU8_yields : Yields prReadU8 1 u8At := (prReadBytes_yields 1).map _

theorem prReadU16_yields : Yields prReadU16 2 u16At := (prReadBytes_yields 2).map _

instance : FixedSize prReadU8 1 := ⟨prReadU8_yields.spans⟩
instance : FixedSize prReadU16 2 := ⟨prReadU16_yields.spans⟩
instance : FixedSize prReadU32 4 := ⟨((prReadBytes_yields 4).map _).spans⟩
instance : FixedSize prReadI8 1 := inferInstanceAs (FixedSize (prReadU8 >>= _) (1 + 0))
instance : FixedSize prReadI16 2 := inferInstanceAs (FixedSize (prReadU16 >>= _) (2 + 0))
instance : FixedSize prReadBool 1 := inferInstanceAs (FixedSize (prReadU8 >>= _) (1 + 0))
instance : FixedSize prReadPad3 3 := ⟨((prReadBytes_yields 3).map _).spans⟩
instance {F : Type} [WireFloat F] : FixedSize (prReadF32 : Read F) 4 :=
  inferInstanceAs (FixedSize (prReadU32 >>= _) (4 + 0))

def stringSize (bs : List UInt8) : Nat := 2 + (u16At bs).toNat

theorem prReadStringU16_spans (dstCapacity : Nat) :
    Spans (prReadStringU16 dstCapacity) stringSize := by
  have rest : ∀ len : UInt16, Spans (if dstCapacity = 0 ∨ dstCapacity < len.toNat + 1 then prOverflow
      else prReadBytes len.toNat : Read Text) fun _ => len.toNat := by
    intro len
    split
    · intro r r' text done
      cases done
    · exact (prReadBytes_yields len.toNat).spans
  exact prReadU16_yields.bind rest

/-! ## Messages -/

variable {F : Type} [WireFloat F]

/-- The messages whose payload has one size. -/
def fixedPayload : MessageType → Option Nat
  | .hello | .profileItems | .profilePerks | .interestSet | .dialogueLine | .dialogueChoices
  | .questUpdate => none
  | .disconnect => some 1
  | .ping | .pong | .playerLeft => some 4
  | .profileAppearance | .actorDespawn | .objectDespawn | .dialogueSelect | .dialogueClose => some 8
  | .welcome | .deathEvent | .buildResult | .objectScrapReq | .dialogueOpen => some 12
  | .bubbleViolation | .meleeIntent => some 16
  | .inputState => some 18
  | .damageResult => some 20
  | .profileSnapshot => some 24
  | .actorSpawn | .objectSpawn | .objectMoveReq | .objectUpdate => some 36
  | .actorState | .fireIntent => some 40
  | .buildRequest => some 44
  | .playerState => some 60

instance : FixedSize (readVec3 : Read (Vec3f F)) 12 :=
  inferInstanceAs (FixedSize (prReadF32 >>= fun _ => prReadF32 >>= fun _ => prReadF32 >>= _)
    (4 + (4 + (4 + 0))))

instance : FixedSize (readRot3 : Read (Rot3f F)) 12 :=
  inferInstanceAs (FixedSize (prReadF32 >>= fun _ => prReadF32 >>= fun _ => prReadF32 >>= _)
    (4 + (4 + (4 + 0))))

theorem decodeBody_fixed (caps : DecodeCaps) {type : MessageType} {n : Nat}
    (fixed : fixedPayload type = some n) :
    Spans (decodeBody caps type : Read (Body F type)) fun _ => n := by
  cases type <;> cases fixed <;>
    simp only [decodeBody, decodeMsgWelcome, decodeMsgPing, decodeMsgPong, decodeMsgDisconnect,
      decodeMsgProfileSnapshot, decodeMsgProfileAppearance, decodeMsgInputState,
      decodeMsgPlayerState, decodeMsgPlayerLeft, decodeMsgBubbleViolation, decodeMsgActorSpawn,
      decodeMsgActorState, decodeMsgActorDespawn, decodeMsgFireIntent, decodeMsgMeleeIntent,
      decodeMsgDamageResult, decodeMsgDeathEvent, decodeMsgBuildRequest, decodeMsgBuildResult,
      decodeMsgObjectSpawn, decodeMsgObjectMoveRequest, decodeMsgObjectScrapRequest,
      decodeMsgObjectUpdate, decodeMsgObjectDespawn, decodeMsgDialogueOpen,
      decodeMsgDialogueSelect, decodeMsgDialogueClose] <;>
    exact FixedSize.spans

/-! ## Strings and counted records -/

/-- A record that ends in a string. -/
def textRecordSize (bs : List UInt8) : Nat := 8 + stringSize (bs.drop 8)

theorem textRecord_spans {α : Type} (record : UInt32 → UInt8 → Pad3 → Text → α) :
    Spans (do
      let id ← prReadU32
      let mark ← prReadU8
      let reserved0 ← prReadPad3
      let text ← prReadStringU16 256
      return record id mark reserved0 text) textRecordSize := by
  refine Spans.of_eq (FixedSize.spans.bind fun _ => FixedSize.spans.bind fun _ =>
    FixedSize.spans.bind fun _ => (prReadStringU16_spans 256).bind fun _ => .pure _) fun bs => ?_
  simp only [textRecordSize, List.drop_drop, Nat.reduceAdd]
  omega

instance : FixedSize decodeProfileItemRecord 12 :=
  inferInstanceAs (FixedSize (prReadU32 >>= fun _ => prReadU32 >>= fun _ => prReadU8 >>= fun _ =>
    prReadPad3 >>= _) (4 + (4 + (1 + (3 + 0)))))

instance : FixedSize decodeProfilePerkRecord 8 :=
  inferInstanceAs (FixedSize (prReadU32 >>= fun _ => prReadU8 >>= fun _ => prReadPad3 >>= _)
    (4 + (1 + (3 + 0))))

theorem counted_spans {α β : Type} {p : Read α} {size : List UInt8 → Nat} (record : Spans p size)
    (tooMany : Prop) [Decidable tooMany] (count : Nat) (result : List α → β) :
    Spans (if tooMany then failure else do let as ← readTimes p count; return result as)
      (timesSize size count) := by
  split
  · exact .failure _
  · exact ((record.readTimes count).bind fun _ => .pure _).of_eq fun _ => rfl

/-- The size of a payload, as its own counts and lengths have it. -/
def payloadSize (type : MessageType) (bs : List UInt8) : Nat :=
  match type with
  | .hello => 8 + stringSize (bs.drop 8) + stringSize (bs.drop (8 + stringSize (bs.drop 8)))
  | .profileItems => 4 + 12 * (u16At bs).toNat
  | .profilePerks => 4 + 8 * (u16At bs).toNat
  | .interestSet => 20 + 4 * (u16At (bs.drop 16)).toNat
  | .dialogueLine => 8 + stringSize (bs.drop 8)
  | .dialogueChoices => 8 + timesSize textRecordSize (u16At (bs.drop 4)).toNat (bs.drop 8)
  | .questUpdate => 8 + timesSize textRecordSize (u8At (bs.drop 7)).toNat (bs.drop 8)
  | type => (fixedPayload type).getD 0

theorem decodeBody_spans (caps : DecodeCaps) (type : MessageType) :
    Spans (decodeBody caps type : Read (Body F type)) (payloadSize type) := by
  cases fixed : fixedPayload type with
  | some n =>
      refine (decodeBody_fixed caps fixed).of_eq fun bs => ?_
      cases type <;> cases fixed <;> rfl
  | none =>
      cases type with
      | hello =>
          refine Spans.of_eq (FixedSize.spans.bind fun _ => FixedSize.spans.bind fun _ =>
            (prReadStringU16_spans _).bind fun _ => (prReadStringU16_spans _).bind fun _ =>
              .pure _) fun bs => ?_
          simp only [payloadSize, List.drop_drop, Nat.reduceAdd]
          omega
      | profileItems =>
          refine Spans.of_eq (prReadU16_yields.bind fun _ => FixedSize.spans.bind fun _ =>
            counted_spans FixedSize.spans _ _ _) fun bs => ?_
          simp only [payloadSize, timesSize_fixed]
          omega
      | profilePerks =>
          refine Spans.of_eq (prReadU16_yields.bind fun _ => FixedSize.spans.bind fun _ =>
            counted_spans FixedSize.spans _ _ _) fun bs => ?_
          simp only [payloadSize, timesSize_fixed]
          omega
      | interestSet =>
          refine Spans.of_eq (FixedSize.spans.bind fun _ => FixedSize.spans.bind fun _ =>
            FixedSize.spans.bind fun _ => FixedSize.spans.bind fun _ =>
            prReadU16_yields.bind fun _ => FixedSize.spans.bind fun _ =>
            counted_spans FixedSize.spans _ _ _) fun bs => ?_
          simp only [payloadSize, timesSize_fixed, List.drop_drop, Nat.reduceAdd]
          omega
      | dialogueLine =>
          refine Spans.of_eq (FixedSize.spans.bind fun _ => FixedSize.spans.bind fun _ =>
            (prReadStringU16_spans _).bind fun _ => .pure _) fun bs => ?_
          simp only [payloadSize, List.drop_drop, Nat.reduceAdd]
          omega
      | dialogueChoices =>
          refine Spans.of_eq (FixedSize.spans.bind fun _ => prReadU16_yields.bind fun _ =>
            FixedSize.spans.bind fun _ => counted_spans (textRecord_spans _) _ _ _) fun bs => ?_
          simp only [payloadSize, List.drop_drop, Nat.reduceAdd]
          omega
      | questUpdate =>
          refine Spans.of_eq (FixedSize.spans.bind fun _ => FixedSize.spans.bind fun _ =>
            FixedSize.spans.bind fun _ => prReadU8_yields.bind fun _ =>
            counted_spans (textRecord_spans _) _ _ _) fun bs => ?_
          simp only [payloadSize, List.drop_drop, Nat.reduceAdd]
          omega
      | _ => cases fixed

end F4MP.Protocol

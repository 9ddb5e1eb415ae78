import F4MP.Library.Cursor
import F4MP.Protocol.Extent

/-!
# The bounds of the reader and the writer

`packet_reader.c` and `packet_writer.c` in any order of their operations, with the memory that strings
and raw bytes are read to, and the decoders of `packet_codec.c` that fill an array of their caller. Raw
lengths have 16 bits, so that no offset in a buffer gets near the end of `size_t`.
-/

namespace F4MP.Protocol
open SoftFloat Wire Transition

variable {F M : Type}

instance : Cursor PacketReader where
  offset r := r.offset
  limit r := r.buffer.length
  overflowed r := r.overflowed

instance : Cursor PacketWriter where
  offset w := w.bytes.length
  limit w := w.capacity
  overflowed w := w.overflowed

/-! ## Reading -/

theorem prReadBytes_guarded (len : Nat) : Guarded (prReadBytes len) := by
  refine ⟨⟨fun r => ?_, fun r inside => ?_, fun r none => ?_⟩, fun r marked => ?_⟩
  · change (prReadBytes len r).2.buffer.length = _
    unfold prReadBytes
    split
    · rfl
    · rfl
  · change (prReadBytes len r).2.offset ≤ r.buffer.length
    unfold prReadBytes
    split
    · exact inside
    · rename_i fits
      rw [Bool.or_eq_true, not_or, decide_eq_true_eq] at fits
      exact Nat.not_lt.mp fits.2
  · change (prReadBytes len r).2.overflowed = true
    change (prReadBytes len r).1 = _ at none
    unfold prReadBytes at none ⊢
    split
    · rfl
    · rename_i fits
      rw [if_neg fits] at none
      cases none
  · have marked : r.overflowed = true := marked
    change prReadBytes len r = _
    rw [prReadBytes, if_pos (by rw [marked, Bool.true_or]), ← marked]

theorem prReadBytes_atomic (len : Nat) : Atomic (prReadBytes len) := by
  intro r none
  change (prReadBytes len r).1 = _ at none
  change (prReadBytes len r).2.offset = r.offset
  unfold prReadBytes at none ⊢
  split
  · rfl
  · rename_i fits
    rw [if_neg fits] at none
    cases none

theorem prOverflow_guarded {α : Type} : Guarded (prOverflow : Read α) :=
  ⟨⟨fun _ => rfl, fun _ inside => inside, fun _ _ => rfl⟩, fun r marked => by
    have marked : r.overflowed = true := marked
    change (_, { r with overflowed := true }) = _
    rw [← marked]⟩

theorem prReadU16_guarded : Guarded prReadU16 := (prReadBytes_guarded 2).map _

theorem prReadU16_atomic : Atomic prReadU16 := (prReadBytes_atomic 2).map _

/-- The memory that a `char` buffer stands in. -/
abbrev Chars := Nat → UInt8

section Into
variable (chars : (Chars → Chars) → M → M)

/-- `pr_read_bytes` into the characters that are a part of the memory. -/
def prReadBytesInto (dst len : Nat) : Into PacketReader M Unit :=
  store (prReadBytes len) fun bytes => chars (memcpy dst bytes)

/-- `pr_read_string_u16` -/
def prReadStringU16Into (dst dstCapacity : Nat) : Into PacketReader M Unit := do
  let len ← fetch prReadU16
  if dstCapacity = 0 ∨ dstCapacity < len.toNat + 1 then fetch prOverflow
  else do
    prReadBytesInto chars dst len.toNat
    assign (chars (memcpy (dst + len.toNat) [0]))

/-- An operation of the reader. The numbers are read to variables of their own. -/
inductive ReadOp where
  | u8
  | u16
  | u32
  | i8
  | i16
  | i32
  | f32
  | bool
  | bytes (dst : Nat) (len : UInt16)
  | string (dst dstCapacity : Nat)

end Into

/-- A number is read to a variable of its own. -/
def toVariable {α : Type} (p : Read α) : Into PacketReader Chars Unit := store p fun _ mem => mem

variable (F) in
def ReadOp.exec [WireFloat F] : ReadOp → Into PacketReader Chars Unit
  | .u8 => toVariable prReadU8
  | .u16 => toVariable prReadU16
  | .u32 => toVariable prReadU32
  | .i8 => toVariable prReadI8
  | .i16 => toVariable prReadI16
  | .i32 => toVariable prReadI32
  | .f32 => toVariable (prReadF32 : Read F)
  | .bool => toVariable prReadBool
  | .bytes dst len => prReadBytesInto id dst len.toNat
  | .string dst dstCapacity => prReadStringU16Into id dst dstCapacity

/-- What an operation that fails has read: the length in front of a string. -/
def ReadOp.completed : ReadOp → PacketReader → Nat
  | .string .., r => if (prReadU16.run r).1.isSome then 2 else 0
  | _, _ => 0

theorem prReadStringU16Into_guarded (chars : (Chars → Chars) → M → M) (dst dstCapacity : Nat) :
    Guarded (prReadStringU16Into chars dst dstCapacity) := by
  refine prReadU16_guarded.fetch.bind fun len => ?_
  split
  · exact prOverflow_guarded.fetch.toOrderly
  · exact ((prReadBytes_guarded len.toNat).store _).toOrderly.bind fun _ => .assign _

theorem ReadOp.simple [WireFloat F] {P : ∀ {α : Type}, Read α → Prop}
    (bytes : ∀ len, P (prReadBytes len)) (map : ∀ {α γ : Type} {p : Read α} (f : α → γ), P p →
      P (do return f (← p))) : P prReadU8 ∧ P prReadU16 ∧ P prReadU32 ∧ P prReadI8 ∧ P prReadI16 ∧
        P prReadI32 ∧ P (prReadF32 : Read F) ∧ P prReadBool := by
  have u8 : P prReadU8 := map _ (bytes 1)
  have u16 : P prReadU16 := map _ (bytes 2)
  have u32 : P prReadU32 := map _ (bytes 4)
  exact ⟨u8, u16, u32, map _ u8, map _ u16, map _ u32, map _ u32, map _ u8⟩

theorem ReadOp.guarded [WireFloat F] (op : ReadOp) : Guarded (op.exec F) := by
  obtain ⟨u8, u16, u32, i8, i16, i32, f32, bool⟩ := @ReadOp.simple F _ Guarded prReadBytes_guarded
    fun f guarded => guarded.map f
  have variable_ : ∀ {α : Type} {p : Read α}, Guarded p → Guarded (toVariable p) :=
    fun guarded => guarded.store _
  cases op with
  | u8 => exact variable_ u8
  | u16 => exact variable_ u16
  | u32 => exact variable_ u32
  | i8 => exact variable_ i8
  | i16 => exact variable_ i16
  | i32 => exact variable_ i32
  | f32 => exact variable_ f32
  | bool => exact variable_ bool
  | bytes dst len => exact (prReadBytes_guarded len.toNat).store _
  | string dst dstCapacity => exact prReadStringU16Into_guarded id dst dstCapacity

theorem prReadStringU16Into_stops {chars : (Chars → Chars) → M → M} {dst dstCapacity : Nat}
    {s : PacketReader × M} (failed : ((prReadStringU16Into chars dst dstCapacity).run s).1 = none) :
    ((prReadStringU16Into chars dst dstCapacity).run s).2.1.offset =
      s.1.offset + if (prReadU16.run s.1).1.isSome then 2 else 0 := by
  have fetched : (fetch prReadU16 : Into PacketReader M UInt16).run s =
      ((prReadU16.run s.1).1, ((prReadU16.run s.1).2, s.2)) := rfl
  obtain ⟨length, lengthIs⟩ : ∃ read, read = prReadU16.run s.1 := ⟨_, rfl⟩
  rw [← lengthIs] at fetched ⊢
  obtain ⟨_ | len, t⟩ := length
  · have atomic := prReadU16_atomic s.1
    rw [← lengthIs] at atomic
    rw [prReadStringU16Into, run_bind, fetched]
    exact atomic rfl
  · have moved : t.offset = s.1.offset + 2 :=
      congrArg PacketReader.offset (prReadU16_yields s.1 t len lengthIs.symm).2.1
    rw [prReadStringU16Into, run_bind, fetched] at failed ⊢
    dsimp only at failed ⊢
    split at failed
    · rename_i tooLong
      rw [if_pos tooLong]
      exact moved
    · rename_i room
      rw [if_neg room]
      have bytes := (prReadBytes_atomic len.toNat).store (fun bytes => chars (memcpy dst bytes)) (t, s.2)
      rcases run_bind_cases (prReadBytesInto chars dst len.toNat) (fun _ =>
        assign (chars (memcpy (dst + len.toNat) [0]))) (t, s.2) with
        ⟨u, short, whole⟩ | ⟨_, u, read, whole⟩
      · rw [whole]
        change (prReadBytesInto chars dst len.toNat).run (t, s.2) = _ at short
        have here : _ → ((prReadBytesInto chars dst len.toNat).run (t, s.2)).2.1.offset = t.offset :=
          bytes
        rw [short] at here
        exact (here (congrArg Prod.fst short)).trans moved
      · cases (congrArg Prod.fst whole).symm.trans failed

/-- An operation that fails has moved by what it has completed. -/
theorem ReadOp.stops [WireFloat F] (op : ReadOp) {s : PacketReader × Chars}
    (failed : ((op.exec F).run s).1 = none) :
    ((op.exec F).run s).2.1.offset = s.1.offset + op.completed s.1 := by
  obtain ⟨u8, u16, u32, i8, i16, i32, f32, bool⟩ := @ReadOp.simple F _ Atomic prReadBytes_atomic
    fun f atomic => atomic.map f
  have variable_ : ∀ {α : Type} {p : Read α}, Atomic p → Atomic (toVariable p) :=
    fun atomic => atomic.store _
  cases op with
  | u8 => exact variable_ u8 s failed
  | u16 => exact variable_ u16 s failed
  | u32 => exact variable_ u32 s failed
  | i8 => exact variable_ i8 s failed
  | i16 => exact variable_ i16 s failed
  | i32 => exact variable_ i32 s failed
  | f32 => exact variable_ f32 s failed
  | bool => exact variable_ bool s failed
  | bytes dst len => exact (prReadBytes_atomic len.toNat).store _ s failed
  | string dst dstCapacity => exact prReadStringU16Into_stops failed

/-! ### Strings -/

theorem prReadBytes_length {len : Nat} {r r' : PacketReader} {bytes : List UInt8}
    (read : (prReadBytes len).run r = (some bytes, r')) : bytes.length = len := by
  obtain ⟨inside, _, rfl⟩ := prReadBytes_yields len r r' bytes read
  exact List.length_take_of_le inside

theorem prReadStringU16Into_deposits (chars : (Chars → Chars) → M → M)
    (compose : ∀ f g m, chars g (chars f m) = chars (g ∘ f) m) (dst dstCapacity : Nat) (m : M) :
    Deposits (prReadStringU16Into chars dst dstCapacity) (prReadStringU16 dstCapacity) m
      fun text => chars (memcpy dst (text ++ [0])) m := by
  refine .fetch fun len => .ite (fun _ => ⟨fun r r' text read => ?_, fun r r' read => ?_⟩) fun _ => ?_
  · cases read
  · cases read
    exact ⟨m, rfl⟩
  · refine (Deposits.store (prReadBytes len.toNat) _).assign fun r r' text read => ?_
    rw [compose, ← prReadBytes_length read]
    congr 1
    funext mem
    exact (memcpy_append dst text [0] mem).symm

theorem prReadStringU16_some {dstCapacity : Nat} {r r' : PacketReader} {text : Text}
    (read : (prReadStringU16 dstCapacity).run r = (some text, r')) :
    text.length + 1 ≤ dstCapacity ∧ ∃ len t, prReadU16.run r = (some len, t) ∧
      text.length = len.toNat := by
  obtain ⟨len, t, here, there⟩ := run_bind_inv read
  split at there
  · cases there
  · rename_i room
    have length := prReadBytes_length there
    exact ⟨by omega, len, t, here, length⟩

theorem ReadOp.string_written [WireFloat F] {dst dstCapacity : Nat} {s : PacketReader × Chars}
    (done : (((ReadOp.string dst dstCapacity).exec F).run s).1 = some ()) :
    ∃ text len t, prReadU16.run s.1 = (some len, t) ∧ text.length = len.toNat ∧
      (text ++ [0]).length ≤ dstCapacity ∧
      (((ReadOp.string dst dstCapacity).exec F).run s).2.2 = memcpy dst (text ++ [0]) s.2 := by
  obtain ⟨r, mem⟩ := s
  have deposits := prReadStringU16Into_deposits id (fun _ _ _ => rfl) dst dstCapacity mem
  obtain ⟨read, readIs⟩ : ∃ read, read = (prReadStringU16 dstCapacity).run r := ⟨_, rfl⟩
  obtain ⟨_ | text, r'⟩ := read
  · obtain ⟨mem', stopped⟩ := deposits.fails r r' readIs.symm
    cases (congrArg Prod.fst stopped).symm.trans done
  · obtain ⟨room, len, t, prefix_, length⟩ := prReadStringU16_some readIs.symm
    refine ⟨text, len, t, prefix_, length, by rwa [List.length_append], ?_⟩
    exact congrArg (·.2.2) (deposits.done r r' text readIs.symm)

/-! ## Writing -/

theorem pwWriteBytes_guarded (src : List UInt8) : Guarded (pwWriteBytes src) := by
  refine ⟨⟨fun w => ?_, fun w inside => ?_, fun w none => ?_⟩, fun w marked => ?_⟩
  · change (pwWriteBytes src w).2.capacity = _
    unfold pwWriteBytes
    split
    · rfl
    · rfl
  · change (pwWriteBytes src w).2.bytes.length ≤ w.capacity
    unfold pwWriteBytes
    split
    · exact inside
    · rename_i fits
      rw [Bool.or_eq_true, not_or, decide_eq_true_eq] at fits
      rw [List.length_append]
      exact Nat.not_lt.mp fits.2
  · change (pwWriteBytes src w).2.overflowed = true
    change (pwWriteBytes src w).1 = _ at none
    unfold pwWriteBytes at none ⊢
    split
    · rfl
    · rename_i fits
      rw [if_neg fits] at none
      cases none
  · have marked : w.overflowed = true := marked
    change pwWriteBytes src w = _
    rw [pwWriteBytes, if_pos (by rw [marked, Bool.true_or]), ← marked]

theorem pwWriteBytes_atomic (src : List UInt8) : Atomic (pwWriteBytes src) := by
  intro w none
  change (pwWriteBytes src w).1 = _ at none
  change (pwWriteBytes src w).2.bytes.length = w.bytes.length
  unfold pwWriteBytes at none ⊢
  split
  · rfl
  · rename_i fits
    rw [if_neg fits] at none
    cases none

theorem pwOverflow_guarded : Guarded pwOverflow :=
  ⟨⟨fun _ => rfl, fun _ inside => inside, fun _ _ => rfl⟩, fun w marked => by
    have marked : w.overflowed = true := marked
    change (_, { w with overflowed := true }) = _
    rw [← marked]⟩

/-- An operation of the writer. -/
inductive WriteOp (F : Type) where
  | u8 (value : UInt8)
  | u16 (value : UInt16)
  | u32 (value : UInt32)
  | i8 (value : Int8)
  | i16 (value : Int16)
  | i32 (value : Int32)
  | f32 (value : F)
  | bool (value : Bool)
  | bytes (src : {src : List UInt8 // src.length ≤ 65535})
  | string (utf8 : Text)

def WriteOp.exec [WireFloat F] : WriteOp F → Write
  | .u8 value => pwWriteU8 value
  | .u16 value => pwWriteU16 value
  | .u32 value => pwWriteU32 value
  | .i8 value => pwWriteI8 value
  | .i16 value => pwWriteI16 value
  | .i32 value => pwWriteI32 value
  | .f32 value => pwWriteF32 value
  | .bool value => pwWriteBool value
  | .bytes src => pwWriteBytes src
  | .string utf8 => pwWriteStringU16 utf8

/-- What an operation that fails has written: the length in front of a string. -/
def WriteOp.completed : WriteOp F → PacketWriter → Nat
  | .string utf8, w =>
      if (cString utf8).length ≤ 65535 ∧
          ((pwWriteU16 (UInt16.ofNat (cString utf8).length)).run w).1.isSome then 2 else 0
  | _, _ => 0

theorem WriteOp.simple [WireFloat F] (op : WriteOp F) :
    (∃ src, op.exec = pwWriteBytes src ∧ ∀ w, op.completed w = 0) ∨ ∃ utf8, op = .string utf8 := by
  cases op with
  | string utf8 => exact .inr ⟨utf8, rfl⟩
  | _ => exact .inl ⟨_, rfl, fun _ => rfl⟩

theorem WriteOp.guarded [WireFloat F] (op : WriteOp F) : Guarded op.exec := by
  rcases op.simple with ⟨src, same, _⟩ | ⟨utf8, rfl⟩
  · exact same ▸ pwWriteBytes_guarded src
  · change Guarded (pwWriteStringU16 utf8)
    unfold pwWriteStringU16
    dsimp only
    split
    · exact pwOverflow_guarded
    · exact (pwWriteBytes_guarded _).bind fun _ => (pwWriteBytes_guarded _).toOrderly

/-- An operation that fails has moved by what it has completed. -/
theorem WriteOp.stops [WireFloat F] (op : WriteOp F) {w : PacketWriter}
    (failed : (op.exec.run w).1 = none) :
    (op.exec.run w).2.bytes.length = w.bytes.length + op.completed w := by
  rcases op.simple with ⟨src, same, nothing⟩ | ⟨utf8, rfl⟩
  · rw [nothing, same]
    rw [same] at failed
    exact pwWriteBytes_atomic src w failed
  change ((pwWriteStringU16 utf8).run w).1 = none at failed
  change ((pwWriteStringU16 utf8).run w).2.bytes.length = _
  obtain ⟨text, textIs⟩ : ∃ text, text = cString utf8 := ⟨_, rfl⟩
  simp only [pwWriteStringU16, completed, ← textIs] at failed ⊢
  split at failed
  · rename_i long
    rw [if_pos long, if_neg fun both => absurd both.1 (Nat.not_le.mpr long)]
    rfl
  · rename_i short
    rw [if_neg short]
    obtain ⟨size, sizeIs⟩ : ∃ size, size = pwWriteU16 (UInt16.ofNat text.length) := ⟨_, rfl⟩
    have atomic : Atomic size := sizeIs ▸ pwWriteBytes_atomic _
    rw [← sizeIs] at failed ⊢
    rcases run_bind_cases size (fun _ => pwWriteBytes text) w with
      ⟨t, full, whole⟩ | ⟨_, t, written, whole⟩
    · have here := atomic w
      rw [full] at here
      rw [whole, if_neg fun both => by rw [full] at both; cases both.2]
      exact here rfl
    · have moved : t.bytes.length = w.bytes.length + 2 := by
        rw [sizeIs] at written
        rw [(pwWriteBytes_emits _).1 w t written]
        change (w.bytes ++ leBytes 2 _).length = _
        rw [List.length_append, leBytes_length]
      rw [whole] at failed ⊢
      rw [if_pos ⟨Nat.not_lt.mp short, by rw [written]; rfl⟩, ← moved]
      exact pwWriteBytes_atomic text t failed

/-! ## Arrays -/

/-- What a decoder writes to: its header, the array `out` and, 256 characters a row, the texts beside
it. -/
structure Out (H R : Type) where
  h : H
  out : Nat → R
  texts : Chars

namespace Out
variable {H R : Type}

def header (f : H → H) (m : Out H R) : Out H R := { m with h := f m.h }

def element (i : Nat) (f : R → R) (m : Out H R) : Out H R :=
  { m with out := Function.update m.out i (f (m.out i)) }

def chars (f : Chars → Chars) (m : Out H R) : Out H R := { m with texts := f m.texts }

@[simp] theorem element_element (i : Nat) (f g : R → R) (m : Out H R) :
    (m.element i f).element i g = m.element i fun record => g (f record) := by
  simp [element]

end Out

section Decoders
variable {H R : Type}

/-- As many records as the header counts, if the array has room for them. -/
def decodeRecords (tooMany : H → Prop) [DecidablePred tooMany] (count : H → Nat)
    (record : Nat → Into PacketReader (Out H R) Unit) : Into PacketReader (Out H R) Unit := do
  let m ← memory
  if tooMany m.h then failure else forRange record 0 (count m.h)

/-- A header with a count, and the records. -/
def decodeCounted (header : Into PacketReader (Out H R) Unit) (tooMany : H → Prop)
    [DecidablePred tooMany] (count : H → Nat) (record : Nat → Into PacketReader (Out H R) Unit) :
    Into PacketReader (Out H R) Unit := do
  header
  decodeRecords tooMany count record

/-- `decode_msg_profile_items` -/
def decodeMsgProfileItemsInto (maxItems : UInt16) :
    Into PacketReader (Out MsgProfileItemsHeader MsgProfileItemRecord) Unit :=
  decodeCounted
    (do store prReadU16 fun itemCount => Out.header fun h => { h with itemCount }
        store prReadU16 fun reserved0 => Out.header fun h => { h with reserved0 })
    (fun h => maxItems < h.itemCount) (fun h => h.itemCount.toNat)
    fun i => do
      store prReadU32 fun formId => Out.element i fun item => { item with formId }
      store prReadU32 fun count => Out.element i fun item => { item with count }
      store prReadU8 fun equipped => Out.element i fun item => { item with equipped }
      store prReadPad3 fun reserved0 => Out.element i fun item => { item with reserved0 }

/-- `decode_msg_profile_perks` -/
def decodeMsgProfilePerksInto (maxPerks : UInt16) :
    Into PacketReader (Out MsgProfilePerksHeader MsgProfilePerkRecord) Unit :=
  decodeCounted
    (do store prReadU16 fun perkCount => Out.header fun h => { h with perkCount }
        store prReadU16 fun reserved0 => Out.header fun h => { h with reserved0 })
    (fun h => maxPerks < h.perkCount) (fun h => h.perkCount.toNat)
    fun i => do
      store prReadU32 fun perkFormId => Out.element i fun perk => { perk with perkFormId }
      store prReadU8 fun rank => Out.element i fun perk => { perk with rank }
      store prReadPad3 fun reserved0 => Out.element i fun perk => { perk with reserved0 }

/-- `decode_msg_interest_set` -/
def decodeMsgInterestSetInto [WireFloat F] (maxCells : UInt16) :
    Into PacketReader (Out (MsgInterestSet F) CellId) Unit :=
  decodeCounted
    (do store prReadF32 fun x => Out.header fun m =>
          { m with bubbleCenter := { m.bubbleCenter with x } }
        store prReadF32 fun y => Out.header fun m =>
          { m with bubbleCenter := { m.bubbleCenter with y } }
        store prReadF32 fun z => Out.header fun m =>
          { m with bubbleCenter := { m.bubbleCenter with z } }
        store prReadF32 fun bubbleRadius => Out.header fun m => { m with bubbleRadius }
        store prReadU16 fun cellCount => Out.header fun m => { m with cellCount }
        store prReadU16 fun reserved => Out.header fun m => { m with reserved })
    (fun m => maxCells < m.cellCount) (fun m => m.cellCount.toNat)
    fun i => store prReadU32 fun cell => Out.element i fun _ => cell

/-- `decode_msg_dialogue_choices` -/
def decodeMsgDialogueChoicesInto (maxChoices : UInt16) :
    Into PacketReader (Out MsgDialogueChoicesHeader MsgDialogueChoiceRecord) Unit :=
  decodeCounted
    (do store prReadU32 fun dialogueId => Out.header fun h => { h with dialogueId }
        store prReadU16 fun choiceCount => Out.header fun h => { h with choiceCount }
        store prReadU16 fun reserved0 => Out.header fun h => { h with reserved0 })
    (fun h => maxChoices < h.choiceCount) (fun h => h.choiceCount.toNat)
    fun i => do
      store prReadU32 fun choiceId => Out.element i fun choice => { choice with choiceId }
      store prReadU8 fun enabled => Out.element i fun choice => { choice with enabled }
      store prReadPad3 fun reserved0 => Out.element i fun choice => { choice with reserved0 }
      prReadStringU16Into Out.chars (256 * i) 256

/-- `decode_msg_quest_update` -/
def decodeMsgQuestUpdateInto (maxObjectives : UInt8) :
    Into PacketReader (Out MsgQuestUpdateHeader MsgQuestObjectiveRecord) Unit :=
  decodeCounted
    (do store prReadU32 fun questId => Out.header fun h => { h with questId }
        store prReadU16 fun stage => Out.header fun h => { h with stage }
        store prReadU8 fun tracked => Out.header fun h => { h with tracked }
        store prReadU8 fun objectiveCount => Out.header fun h => { h with objectiveCount })
    (fun h => maxObjectives < h.objectiveCount) (fun h => h.objectiveCount.toNat)
    fun i => do
      store prReadU32 fun objectiveId => Out.element i fun obj => { obj with objectiveId }
      store prReadU8 fun state => Out.element i fun obj => { obj with state }
      store prReadPad3 fun reserved0 => Out.element i fun obj => { obj with reserved0 }
      prReadStringU16Into Out.chars (256 * i) 256

end Decoders

/-! ### What the decoders leave alone -/

section Bounds
variable {H R V : Type}

/-- No element of the array and no text at or beyond `max` is written, also by a decoder that fails. -/
structure Within (max : Nat) (p : Into PacketReader (Out H R) Unit) : Prop where
  elements : ∀ i, max ≤ i → Spares (fun m => m.out i) p
  texts : ∀ place, 256 * max ≤ place → Spares (fun m => m.texts place) p

theorem decodeCounted_spares {header : Into PacketReader (Out H R) Unit} {tooMany : H → Prop}
    [DecidablePred tooMany] {count : H → Nat} {record : Nat → Into PacketReader (Out H R) Unit}
    {max : Nat} {view : Out H R → V} (bounded : ∀ h, ¬ tooMany h → count h ≤ max)
    (inHeader : Spares view header) (inRecord : ∀ i < max, Spares view (record i)) :
    Spares view (decodeCounted header tooMany count record) := by
  refine inHeader.bind fun _ => Spares.bind (fun _ => rfl) fun m => ?_
  split
  · exact .failure
  · rename_i fits
    have room := bounded m.h fits
    exact .forRange fun i _ less => inRecord i (by omega)

theorem decodeCounted_within {header : Into PacketReader (Out H R) Unit} {tooMany : H → Prop}
    [DecidablePred tooMany] {count : H → Nat} {record : Nat → Into PacketReader (Out H R) Unit}
    {max : Nat} (bounded : ∀ h, ¬ tooMany h → count h ≤ max) (inHeader : Within max header)
    (inRecord : ∀ i < max, Within max (record i)) :
    Within max (decodeCounted header tooMany count record) where
  elements j beyond := decodeCounted_spares bounded (inHeader.elements j beyond) fun i less =>
    (inRecord i less).elements j beyond
  texts place beyond := decodeCounted_spares bounded (inHeader.texts place beyond) fun i less =>
    (inRecord i less).texts place beyond

theorem Within.bind {max : Nat} {p p' : Into PacketReader (Out H R) Unit} (first : Within max p)
    (rest : Within max p') : Within max (p >>= fun _ => p') where
  elements j beyond := (first.elements j beyond).bind fun _ => rest.elements j beyond
  texts place beyond := (first.texts place beyond).bind fun _ => rest.texts place beyond

theorem within_header {α : Type} (max : Nat) (p : Read α) (put : α → H → H) :
    Within max (store p fun a => Out.header (put a) : Into PacketReader (Out H R) Unit) where
  elements _ _ := .store fun _ _ _ _ _ => rfl
  texts _ _ := .store fun _ _ _ _ _ => rfl

theorem within_element {α : Type} {max i : Nat} (less : i < max) (p : Read α) (put : α → R → R) :
    Within max (store p fun a => Out.element i (put a) : Into PacketReader (Out H R) Unit) where
  elements _ beyond := .store fun _ _ _ _ _ =>
    Function.update_of_ne (Nat.ne_of_gt (less.trans_le beyond)) _ _
  texts _ _ := .store fun _ _ _ _ _ => rfl

theorem within_text {max i : Nat} (less : i < max) : Within max
    (prReadStringU16Into Out.chars (256 * i) 256 : Into PacketReader (Out H R) Unit) where
  elements _ _ := by
    refine Spares.bind (.fetch _) fun len => ?_
    split
    · exact .fetch _
    · exact Spares.bind (.store fun _ _ _ _ _ => rfl) fun _ => .assign fun _ => rfl
  texts place beyond := by
    have row : 256 * i + 256 ≤ place := by omega
    refine Spares.bind (.fetch _) fun len => ?_
    split
    · exact .fetch _
    · rename_i room
      refine Spares.bind (.store fun _ _ bytes read m => ?_) fun _ => .assign fun m => ?_
      · have length := prReadBytes_length read
        exact memcpy_of_ge (by omega) m.texts
      · exact memcpy_of_ge (by rw [List.length_singleton]; omega) m.texts

theorem decodeMsgProfileItemsInto_within (maxItems : UInt16) :
    Within maxItems.toNat (decodeMsgProfileItemsInto maxItems) :=
  decodeCounted_within (fun _ fits => UInt16.le_iff_toNat_le.mp (UInt16.not_lt.mp fits))
    ((within_header _ _ _).bind (within_header _ _ _)) fun _ less =>
      (within_element less _ _).bind <| (within_element less _ _).bind <|
        (within_element less _ _).bind (within_element less _ _)

theorem decodeMsgProfilePerksInto_within (maxPerks : UInt16) :
    Within maxPerks.toNat (decodeMsgProfilePerksInto maxPerks) :=
  decodeCounted_within (fun _ fits => UInt16.le_iff_toNat_le.mp (UInt16.not_lt.mp fits))
    ((within_header _ _ _).bind (within_header _ _ _)) fun _ less =>
      (within_element less _ _).bind <| (within_element less _ _).bind (within_element less _ _)

theorem decodeMsgInterestSetInto_within [WireFloat F] (maxCells : UInt16) :
    Within maxCells.toNat (decodeMsgInterestSetInto (F := F) maxCells) :=
  decodeCounted_within (fun _ fits => UInt16.le_iff_toNat_le.mp (UInt16.not_lt.mp fits))
    ((within_header _ _ _).bind <| (within_header _ _ _).bind <| (within_header _ _ _).bind <|
      (within_header _ _ _).bind <| (within_header _ _ _).bind (within_header _ _ _))
    fun _ less => within_element less _ _

theorem decodeMsgDialogueChoicesInto_within (maxChoices : UInt16) :
    Within maxChoices.toNat (decodeMsgDialogueChoicesInto maxChoices) :=
  decodeCounted_within (fun _ fits => UInt16.le_iff_toNat_le.mp (UInt16.not_lt.mp fits))
    ((within_header _ _ _).bind <| (within_header _ _ _).bind (within_header _ _ _)) fun _ less =>
      (within_element less _ _).bind <| (within_element less _ _).bind <|
        (within_element less _ _).bind (within_text less)

theorem decodeMsgQuestUpdateInto_within (maxObjectives : UInt8) :
    Within maxObjectives.toNat (decodeMsgQuestUpdateInto maxObjectives) :=
  decodeCounted_within (fun _ fits => UInt8.le_iff_toNat_le.mp (UInt8.not_lt.mp fits))
    ((within_header _ _ _).bind <| (within_header _ _ _).bind <| (within_header _ _ _).bind
      (within_header _ _ _)) fun _ less =>
      (within_element less _ _).bind <| (within_element less _ _).bind <|
        (within_element less _ _).bind (within_text less)

end Bounds

/-! ### What the decoders write -/

section Written
variable {H R A : Type}

/-- A record, all of its fields at once. -/
def Out.place (i : Nat) (record : R) : Out H R → Out H R := Out.element i fun _ => record

/-- A record, and the text in the row beside it. -/
def Out.placeText (i : Nat) (record : R × Text) (m : Out H R) : Out H R :=
  (m.place i record.1).chars (memcpy (256 * i) (record.2 ++ [0]))

/-- A decoder writes the records that the plain reader returns. -/
theorem decodeRecords_deposits {γ : Type} {record : Nat → Into PacketReader (Out H R) Unit}
    {q : Read A} {tooMany : H → Prop} [DecidablePred tooMany] {count : H → Nat} {m : Out H R}
    {refused : Prop} [Decidable refused] {n : Nat} {f : List A → γ} {after : γ → Out H R}
    (put : Nat → A → Out H R → Out H R) (each : ∀ i m, Deposits (record i) q m fun a => put i a m)
    (sameTest : tooMany m.h ↔ refused) (sameCount : count m.h = n)
    (same : ∀ as, after (f as) = putEach put 0 as m) :
    Deposits (decodeRecords tooMany count record)
      (if refused then failure else do return f (← readTimes q n)) m after := by
  subst sameCount
  by_cases many : tooMany m.h
  · rw [if_pos (sameTest.mp many)]
    exact .memory (by rw [if_pos many]; exact .failure)
  · rw [if_neg fun stopped => many (sameTest.mpr stopped)]
    exact .memory (by rw [if_neg many]; exact (Deposits.forRange each 0 (count m.h) m).map same)

theorem decodeMsgProfileItemsInto_deposits (maxItems : UInt16)
    (m : Out MsgProfileItemsHeader MsgProfileItemRecord) :
    Deposits (decodeMsgProfileItemsInto maxItems) (decodeMsgProfileItems maxItems) m fun message =>
      putEach Out.place 0 message.2 (m.header fun _ => message.1) := by
  simp only [decodeMsgProfileItemsInto, decodeCounted, bind_assoc]
  refine (Deposits.store _ _).bind fun itemCount => (Deposits.store _ _).bind fun reserved0 =>
    decodeRecords_deposits Out.place (fun i m => ?_) Iff.rfl rfl fun _ => rfl
  refine (Deposits.store _ _).bind fun formId => (Deposits.store _ _).bind fun count =>
    (Deposits.store _ _).bind fun equipped => (Deposits.store _ _).map fun reserved0 => ?_
  simp only [Out.place, Out.element_element]

theorem decodeMsgProfilePerksInto_deposits (maxPerks : UInt16)
    (m : Out MsgProfilePerksHeader MsgProfilePerkRecord) :
    Deposits (decodeMsgProfilePerksInto maxPerks) (decodeMsgProfilePerks maxPerks) m fun message =>
      putEach Out.place 0 message.2 (m.header fun _ => message.1) := by
  simp only [decodeMsgProfilePerksInto, decodeCounted, bind_assoc]
  refine (Deposits.store _ _).bind fun perkCount => (Deposits.store _ _).bind fun reserved0 =>
    decodeRecords_deposits Out.place (fun i m => ?_) Iff.rfl rfl fun _ => rfl
  refine (Deposits.store _ _).bind fun perkFormId => (Deposits.store _ _).bind fun rank =>
    (Deposits.store _ _).map fun reserved0 => ?_
  simp only [Out.place, Out.element_element]

theorem decodeMsgInterestSetInto_deposits [WireFloat F] (maxCells : UInt16)
    (m : Out (MsgInterestSet F) CellId) :
    Deposits (decodeMsgInterestSetInto maxCells) (decodeMsgInterestSet maxCells) m fun message =>
      putEach Out.place 0 message.2 (m.header fun _ => message.1) := by
  simp only [decodeMsgInterestSetInto, decodeCounted, bind_assoc]
  refine (Deposits.store _ _).bind fun x => (Deposits.store _ _).bind fun y =>
    (Deposits.store _ _).bind fun z => (Deposits.store _ _).bind fun bubbleRadius =>
      (Deposits.store _ _).bind fun cellCount => (Deposits.store _ _).bind fun reserved =>
        decodeRecords_deposits Out.place (fun i m => ?_) Iff.rfl rfl fun _ => rfl
  exact Deposits.store _ _

theorem textRecord_deposits (i : Nat) (m : Out H R) :
    Deposits (prReadStringU16Into Out.chars (256 * i) 256) (prReadStringU16 256) m fun text =>
      m.chars (memcpy (256 * i) (text ++ [0])) :=
  prReadStringU16Into_deposits Out.chars (fun _ _ _ => rfl) (256 * i) 256 m

theorem decodeMsgDialogueChoicesInto_deposits (maxChoices : UInt16)
    (m : Out MsgDialogueChoicesHeader MsgDialogueChoiceRecord) :
    Deposits (decodeMsgDialogueChoicesInto maxChoices) (decodeMsgDialogueChoices maxChoices) m
      fun message => putEach Out.placeText 0 message.2 (m.header fun _ => message.1) := by
  simp only [decodeMsgDialogueChoicesInto, decodeCounted, bind_assoc]
  refine (Deposits.store _ _).bind fun dialogueId => (Deposits.store _ _).bind fun choiceCount =>
    (Deposits.store _ _).bind fun reserved0 =>
      decodeRecords_deposits Out.placeText (fun i m => ?_) Iff.rfl rfl fun _ => rfl
  refine (Deposits.store _ _).bind fun choiceId => (Deposits.store _ _).bind fun enabled =>
    (Deposits.store _ _).bind fun reserved0 => (textRecord_deposits i _).map fun text => ?_
  simp only [Out.placeText, Out.place, Out.element_element]

theorem decodeMsgQuestUpdateInto_deposits (maxObjectives : UInt8)
    (m : Out MsgQuestUpdateHeader MsgQuestObjectiveRecord) :
    Deposits (decodeMsgQuestUpdateInto maxObjectives) (decodeMsgQuestUpdate maxObjectives) m
      fun message => putEach Out.placeText 0 message.2 (m.header fun _ => message.1) := by
  simp only [decodeMsgQuestUpdateInto, decodeCounted, bind_assoc]
  refine (Deposits.store _ _).bind fun questId => (Deposits.store _ _).bind fun stage =>
    (Deposits.store _ _).bind fun tracked => (Deposits.store _ _).bind fun objectiveCount =>
      decodeRecords_deposits Out.placeText (fun i m => ?_) Iff.rfl rfl fun _ => rfl
  refine (Deposits.store _ _).bind fun objectiveId => (Deposits.store _ _).bind fun state =>
    (Deposits.store _ _).bind fun reserved0 => (textRecord_deposits i _).map fun text => ?_
  simp only [Out.placeText, Out.place, Out.element_element]

end Written

/-! ## Sequences of operations -/

section Sequences
variable [WireFloat F]

variable (F) in
/-- The reader of a buffer, behind some operations. -/
structure ReaderInside (buffer : List UInt8) (s : PacketReader × Chars) : Prop where
  inside : s.1.offset ≤ buffer.length
  stops : ∀ op : ReadOp, ((op.exec F).run s).1 = none →
    ((op.exec F).run s).2.1.offset = s.1.offset + op.completed s.1
  fails : ∀ op : ReadOp, ((op.exec F).run s).1 = none → ∀ (more : List ReadOp) (later : ReadOp),
    ((later.exec F).run (run (attempt (ReadOp.exec F)) ((op.exec F).run s).2 more)).1 = none
  /-- A string that is read is written to as many characters as its length counts, and one more. -/
  written : ∀ dst dstCapacity, (((ReadOp.string dst dstCapacity).exec F).run s).1 = some () →
    ∃ text len t, prReadU16.run s.1 = (some len, t) ∧ text.length = len.toNat ∧
      (text ++ [0]).length ≤ dstCapacity ∧
      (((ReadOp.string dst dstCapacity).exec F).run s).2.2 = memcpy dst (text ++ [0]) s.2

variable (F) in
/-- The writer of a buffer, behind some operations. -/
structure WriterInside (capacity : Nat) (w : PacketWriter) : Prop where
  inside : w.bytes.length ≤ capacity
  stops : ∀ op : WriteOp F, (op.exec.run w).1 = none →
    (op.exec.run w).2.bytes.length = w.bytes.length + op.completed w
  fails : ∀ op : WriteOp F, (op.exec.run w).1 = none → ∀ (more : List (WriteOp F)) (later : WriteOp F),
    (later.exec.run (run (attempt WriteOp.exec) (op.exec.run w).2 more)).1 = none

theorem run_readerInside (buffer : List UInt8) (mem : Chars) (ops : List ReadOp) :
    ReaderInside F buffer (run (attempt (ReadOp.exec F)) (prInit buffer, mem) ops) where
  inside := run_attempt_inside (s := (prInit buffer, mem)) ReadOp.guarded (Nat.zero_le _) ops
  stops _ := ReadOp.stops _
  fails _ failed := run_attempt_fails ReadOp.guarded failed
  written _ _ := ReadOp.string_written

theorem run_writerInside (capacity : Nat) (ops : List (WriteOp F)) :
    WriterInside F capacity (run (attempt WriteOp.exec) (pwInit capacity) ops) where
  inside := run_attempt_inside WriteOp.guarded (Nat.zero_le capacity) ops
  stops _ := WriteOp.stops _
  fails _ failed := run_attempt_fails WriteOp.guarded failed

variable (F) in
/-- Whatever bytes arrive, the reader, the writer and the decoders of arrays keep to their buffers. -/
theorem cursors_inside :
    (∀ buffer mem ops, ReaderInside F buffer
      (run (attempt (ReadOp.exec F)) (prInit buffer, mem) ops)) ∧
    (∀ capacity (ops : List (WriteOp F)), WriterInside F capacity
      (run (attempt WriteOp.exec) (pwInit capacity) ops)) ∧
    (∀ max : UInt16, Within max.toNat (decodeMsgProfileItemsInto max)) ∧
    (∀ max : UInt16, Within max.toNat (decodeMsgProfilePerksInto max)) ∧
    (∀ max : UInt16, Within max.toNat (decodeMsgInterestSetInto (F := F) max)) ∧
    (∀ max : UInt16, Within max.toNat (decodeMsgDialogueChoicesInto max)) ∧
    ∀ max : UInt8, Within max.toNat (decodeMsgQuestUpdateInto max) :=
  ⟨run_readerInside, run_writerInside, decodeMsgProfileItemsInto_within,
    decodeMsgProfilePerksInto_within, decodeMsgInterestSetInto_within,
    decodeMsgDialogueChoicesInto_within, decodeMsgQuestUpdateInto_within⟩

end Sequences

end F4MP.Protocol

import F4MP.Library.Wire
import F4MP.Library.SoftFloat
import F4MP.Protocol.Types

/-!
# Packet writer and reader

`packet_writer.c` and `packet_reader.c`. A writer is its bytes up to the offset, a reader the whole
buffer and the offset into it. A C function that returns a flag and changes the writer or reader
fails with `none`, so `&&` and an early `return false` are both sequencing.
-/

namespace F4MP.Protocol
open SoftFloat Wire

structure PacketWriter where
  bytes : List UInt8
  capacity : Nat
  overflowed : Bool
  deriving DecidableEq

structure PacketReader where
  buffer : List UInt8
  offset : Nat
  overflowed : Bool
  deriving DecidableEq

abbrev Write := OptionT (StateM PacketWriter) Unit
abbrev Read (α : Type) := OptionT (StateM PacketReader) α

/-- What a `char` buffer holds for `strlen`, `strcmp` and `strncpy`. -/
def cString (text : Text) : Text := text.takeWhile (· ≠ 0)

/-! ## Writing -/

def pwInit (capacity : Nat) : PacketWriter := ⟨[], capacity, false⟩

def pwWriteBytes (src : List UInt8) : Write := fun w =>
  if w.overflowed || w.capacity < w.bytes.length + src.length then
    (none, { w with overflowed := true })
  else (some (), { w with bytes := w.bytes ++ src })

def pwWriteU8 (value : UInt8) : Write := pwWriteBytes [value]
def pwWriteU16 (value : UInt16) : Write := pwWriteBytes (leBytes 2 value.toNat)
def pwWriteU32 (value : UInt32) : Write := pwWriteBytes (leBytes 4 value.toNat)
def pwWriteI8 (value : Int8) : Write := pwWriteU8 value.toUInt8
def pwWriteI16 (value : Int16) : Write := pwWriteU16 value.toUInt16
def pwWriteI32 (value : Int32) : Write := pwWriteU32 value.toUInt32
def pwWriteF32 {F : Type} [WireFloat F] (value : F) : Write := pwWriteU32 (WireFloat.toBits value)
def pwWriteBool (value : Bool) : Write := pwWriteU8 (if value then 1 else 0)
def pwWritePad3 (pad : Pad3) : Write := pwWriteBytes [pad.b0, pad.b1, pad.b2]

def pwOverflow : Write := fun w => (none, { w with overflowed := true })

def pwWriteStringU16 (utf8 : Text) : Write :=
  let text := cString utf8
  if 65535 < text.length then pwOverflow
  else do
    pwWriteU16 (UInt16.ofNat text.length)
    pwWriteBytes text

/-! ## Reading -/

def prInit (buffer : List UInt8) : PacketReader := ⟨buffer, 0, false⟩

def prReadBytes (len : Nat) : Read (List UInt8) := fun r =>
  if r.overflowed || r.buffer.length < r.offset + len then (none, { r with overflowed := true })
  else (some ((r.buffer.drop r.offset).take len), { r with offset := r.offset + len })

def prReadU8 : Read UInt8 := do return UInt8.ofNat (leValue (← prReadBytes 1))
def prReadU16 : Read UInt16 := do return UInt16.ofNat (leValue (← prReadBytes 2))
def prReadU32 : Read UInt32 := do return UInt32.ofNat (leValue (← prReadBytes 4))
def prReadI8 : Read Int8 := do return (← prReadU8).toInt8
def prReadI16 : Read Int16 := do return (← prReadU16).toInt16
def prReadI32 : Read Int32 := do return (← prReadU32).toInt32
def prReadF32 {F : Type} [WireFloat F] : Read F := do return WireFloat.ofBits (← prReadU32)
def prReadBool : Read Bool := do return (← prReadU8) ≠ 0

def prReadPad3 : Read Pad3 := do
  let bytes ← prReadBytes 3
  return ⟨bytes.getD 0 0, bytes.getD 1 0, bytes.getD 2 0⟩

def prOverflow {α : Type} : Read α := fun r => (none, { r with overflowed := true })

/-- A string into a buffer of `dstCapacity` chars: the bytes before the terminating NUL. -/
def prReadStringU16 (dstCapacity : Nat) : Read Text := do
  let len ← prReadU16
  if dstCapacity = 0 ∨ dstCapacity < len.toNat + 1 then prOverflow
  else prReadBytes len.toNat

def prBytesRemaining (r : PacketReader) : Nat := r.buffer.length - r.offset

/-! ## The primitives as formats -/

instance : Source PacketReader UInt8 where
  ahead r := r.buffer.drop r.offset
  ready r := r.overflowed = false ∧ r.offset ≤ r.buffer.length
  skip r n := { r with offset := r.offset + n }
  skip_zero _ := rfl
  skip_skip r m n := by simp [Nat.add_assoc]
  ahead_skip r n := by simp [List.drop_drop]
  ready_skip r n h room := by
    rw [List.length_drop] at room
    exact ⟨h.1, by dsimp only; omega⟩

instance : Sink PacketWriter UInt8 where
  put w bs := { w with bytes := w.bytes ++ bs }
  ready w := w.overflowed = false ∧ w.bytes.length ≤ w.capacity
  room w := w.capacity - w.bytes.length
  put_nil w := by simp
  put_put w bs cs := by simp
  ready_put w bs h fits := by
    simp only [List.length_append]
    exact ⟨h.1, by omega⟩
  room_put w bs := by simp only [List.length_append]; omega

theorem put_pwInit (capacity : Nat) (bs : List UInt8) :
    Sink.put (pwInit capacity) bs = (⟨bs, capacity, false⟩ : PacketWriter) := rfl

theorem put_writer (bytes bs : List UInt8) (capacity : Nat) :
    Sink.put (⟨bytes, capacity, false⟩ : PacketWriter) bs = ⟨bytes ++ bs, capacity, false⟩ := rfl

theorem pwWriteBytes_emits (src : List UInt8) : Emits (pwWriteBytes src) src := by
  constructor
  · intro w w' done
    change pwWriteBytes src w = _ at done
    unfold pwWriteBytes at done
    split at done
    · cases done
    · exact (congrArg Prod.snd done).symm
  · intro w ready fits
    obtain ⟨clear, inside⟩ : w.overflowed = false ∧ w.bytes.length ≤ w.capacity := ready
    have fits : src.length ≤ w.capacity - w.bytes.length := fits
    have room : ¬ w.capacity < w.bytes.length + src.length := by omega
    change (pwWriteBytes src w).1 = some ()
    simp [pwWriteBytes, clear, room]

theorem prReadBytes_consumes (bs : List UInt8) : Consumes (prReadBytes bs.length) bs bs := by
  intro r ready front
  obtain ⟨clear, inside⟩ : r.overflowed = false ∧ r.offset ≤ r.buffer.length := ready
  have front : bs <+: r.buffer.drop r.offset := front
  have size := front.length_le
  rw [List.length_drop] at size
  have room : ¬ r.buffer.length < r.offset + bs.length := by omega
  change prReadBytes bs.length r = _
  rw [prReadBytes, if_neg (by simp [clear, room]), ← List.prefix_iff_eq_take.mp front]
  rfl

theorem bytes_roundTrips (bs : List UInt8) :
    RoundTrips (pwWriteBytes bs) (prReadBytes bs.length) bs bs.length :=
  ⟨bs, rfl, pwWriteBytes_emits bs, prReadBytes_consumes bs⟩

theorem u8_roundTrips (value : UInt8) : RoundTrips (pwWriteU8 value) prReadU8 value 1 :=
  (bytes_roundTrips [value]).last (by simp [leValue])

theorem u16_roundTrips (value : UInt16) : RoundTrips (pwWriteU16 value) prReadU16 value 2 := by
  have bytes := bytes_roundTrips (leBytes 2 value.toNat)
  rw [leBytes_length] at bytes
  refine bytes.last ?_
  rw [leValue_leBytes, Nat.mod_eq_of_lt (by have := value.toNat_lt; omega), UInt16.ofNat_toNat]

theorem u32_roundTrips (value : UInt32) : RoundTrips (pwWriteU32 value) prReadU32 value 4 := by
  have bytes := bytes_roundTrips (leBytes 4 value.toNat)
  rw [leBytes_length] at bytes
  refine bytes.last ?_
  rw [leValue_leBytes, Nat.mod_eq_of_lt (by have := value.toNat_lt; omega), UInt32.ofNat_toNat]

theorem i8_roundTrips (value : Int8) : RoundTrips (pwWriteI8 value) prReadI8 value 1 :=
  (u8_roundTrips value.toUInt8).last (by simp)

theorem i16_roundTrips (value : Int16) : RoundTrips (pwWriteI16 value) prReadI16 value 2 :=
  (u16_roundTrips value.toUInt16).last (by simp)

theorem f32_roundTrips {F : Type} [WireFloat F] [LawfulWireFloat F] (value : F) :
    RoundTrips (pwWriteF32 value) prReadF32 value 4 :=
  (u32_roundTrips (WireFloat.toBits value)).last (by rw [LawfulWireFloat.ofBits_toBits])

theorem bool_roundTrips (value : Bool) : RoundTrips (pwWriteBool value) prReadBool value 1 :=
  (u8_roundTrips _).last (by cases value <;> rfl)

theorem pad3_roundTrips (pad : Pad3) : RoundTrips (pwWritePad3 pad) prReadPad3 pad 3 :=
  (bytes_roundTrips [pad.b0, pad.b1, pad.b2]).last rfl

theorem cString_noNul (text : Text) : 0 ∉ cString text := by
  intro inside
  have := List.mem_takeWhile_imp inside
  simp at this

theorem cString_whole {text : Text} (noNul : 0 ∉ text) : cString text = text := by
  rw [cString, List.takeWhile_eq_self_iff]
  intro b member
  have : b ≠ 0 := fun zero => noNul (zero ▸ member)
  simpa using this

theorem string_roundTrips (text : Text) (dstCapacity : Nat) (noNul : 0 ∉ text)
    (fits : text.length < dstCapacity) (short : text.length ≤ 65535) :
    RoundTrips (pwWriteStringU16 text) (prReadStringU16 dstCapacity) text (2 + text.length) := by
  have whole := cString_whole noNul
  have len : (UInt16.ofNat text.length).toNat = text.length := by
    rw [UInt16.toNat_ofNat']
    omega
  have room : ¬ (dstCapacity = 0 ∨ dstCapacity < text.length + 1) := by omega
  simp only [pwWriteStringU16, whole, if_neg (Nat.not_lt.mpr short)]
  refine .bind (u16_roundTrips _) ?_
  simp only [len, if_neg room]
  exact bytes_roundTrips text

end F4MP.Protocol

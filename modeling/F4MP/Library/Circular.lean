import Mathlib

/-!
# Circular buffers

A buffer of `n` slots that drops its oldest entry when it is full keeps the last `n` of the entries
that are pushed.
-/

namespace Circular
variable {α : Type} {n : Nat}

/-- `count` slots from `head` on are in use, and the next entry goes to `tail`. -/
structure Buffer (n : Nat) (α : Type) where
  slots : Vector α n
  head : Nat
  tail : Nat
  count : Nat

namespace Buffer
variable [NeZero n]

/-- The slot that is `i` steps around. -/
def slot (b : Buffer n α) (i : Nat) : α := b.slots.get ⟨i % n, Nat.mod_lt i (NeZero.pos n)⟩

/-- The entries, the oldest first. -/
def contents (b : Buffer n α) : List α := (List.range b.count).map fun i => b.slot (b.head + i)

/-- A full buffer drops its oldest entry. -/
def evict (b : Buffer n α) : Buffer n α :=
  if b.count = n then { b with head := (b.head + 1) % n, count := b.count - 1 } else b

def append (b : Buffer n α) (a : α) : Buffer n α :=
  { b with
    slots := b.slots.setIfInBounds (b.tail % n) a
    tail := (b.tail + 1) % n
    count := b.count + 1 }

def push (b : Buffer n α) (a : α) : Buffer n α := b.evict.append a

/-- The entry before the tail. -/
def latest? (b : Buffer n α) : Option α :=
  if b.count = 0 then none else some (b.slot (b.tail + n - 1))

structure WellFormed (b : Buffer n α) : Prop where
  room : b.count ≤ n
  closed : (b.head + b.count) % n = b.tail

/-! ## Slots -/

theorem slot_congr (b : Buffer n α) {i j : Nat} (same : i % n = j % n) : b.slot i = b.slot j := by
  simp only [slot, same]

theorem slot_append (b : Buffer n α) (a : α) (i : Nat) :
    (b.append a).slot i = if b.tail % n = i % n then a else b.slot i :=
  Vector.getElem_setIfInBounds (Nat.mod_lt i (NeZero.pos n))

@[simp] theorem contents_length (b : Buffer n α) : b.contents.length = b.count := by
  simp [contents]

/-! ## Pushing -/

theorem WellFormed.evict {b : Buffer n α} (wf : b.WellFormed) : b.evict.WellFormed := by
  unfold Buffer.evict
  split
  · rename_i full
    have positive := NeZero.pos n
    refine ⟨(Nat.sub_le _ _).trans wf.room, ?_⟩
    rw [Nat.mod_add_mod, ← wf.closed, show b.head + 1 + (b.count - 1) = b.head + b.count by omega]
  · exact wf

theorem evict_count_lt {b : Buffer n α} (wf : b.WellFormed) : b.evict.count < n := by
  have positive := NeZero.pos n
  have room := wf.room
  unfold Buffer.evict
  split
  · dsimp only
    omega
  · omega

theorem evict_contents (b : Buffer n α) :
    b.evict.contents = b.contents.drop (if b.count = n then 1 else 0) := by
  unfold Buffer.evict
  split
  · rename_i full
    obtain ⟨count, countIs⟩ := Nat.exists_eq_succ_of_ne_zero (full ▸ NeZero.ne n)
    simp only [contents, countIs, List.range_succ_eq_map, List.map_cons, List.drop_one, List.tail_cons,
      List.map_map, Nat.succ_eq_add_one, Nat.add_sub_cancel]
    refine List.map_congr_left fun i _ => slot_congr b ?_
    rw [Nat.mod_add_mod, Nat.add_right_comm]
    rfl
  · rfl

omit [NeZero n] in
theorem WellFormed.append {b : Buffer n α} (wf : b.WellFormed) (room : b.count < n) (a : α) :
    (b.append a).WellFormed := by
  refine ⟨room, ?_⟩
  show (b.head + (b.count + 1)) % n = (b.tail + 1) % n
  rw [← wf.closed, Nat.mod_add_mod, Nat.add_assoc]

theorem append_contents {b : Buffer n α} (wf : b.WellFormed) (room : b.count < n) (a : α) :
    (b.append a).contents = b.contents ++ [a] := by
  have tail : b.tail % n = (b.head + b.count) % n := by rw [← wf.closed, Nat.mod_mod]
  have before : ∀ i < b.count, (b.append a).slot (b.head + i) = b.slot (b.head + i) := by
    intro i less
    rw [slot_append, tail, if_neg]
    intro same
    have := (Nat.ModEq.add_left_cancel' b.head same).eq_of_lt_of_lt room (less.trans room)
    omega
  have last : (b.append a).slot (b.head + b.count) = a := by rw [slot_append, tail, if_pos rfl]
  show (List.range (b.count + 1)).map (fun i => (b.append a).slot (b.head + i)) = _
  rw [List.range_succ, List.map_append, List.map_singleton, last]
  congr 1
  exact List.map_congr_left fun i member => before i (List.mem_range.mp member)

theorem WellFormed.push {b : Buffer n α} (wf : b.WellFormed) (a : α) : (b.push a).WellFormed :=
  wf.evict.append (evict_count_lt wf) a

/-- The entry is behind those that are kept. -/
theorem push_contents {b : Buffer n α} (wf : b.WellFormed) (a : α) :
    (b.push a).contents = b.contents.drop (if b.count = n then 1 else 0) ++ [a] := by
  rw [push, append_contents wf.evict (evict_count_lt wf), evict_contents]

/-- The last of all entries that are pushed are kept. -/
theorem push_suffix {b : Buffer n α} {history : List α} (wf : b.WellFormed)
    (recent : b.contents <:+ history) (a : α) : (b.push a).contents <:+ history ++ [a] := by
  rw [push_contents wf]
  obtain ⟨older, split⟩ := (List.drop_suffix _ b.contents).trans recent
  exact ⟨older, by rw [← List.append_assoc, split]⟩

theorem latest?_eq {b : Buffer n α} (wf : b.WellFormed) : b.latest? = b.contents.getLast? := by
  unfold latest?
  split
  · rename_i none
    rw [List.eq_nil_of_length_eq_zero ((contents_length b).trans none), List.getLast?_nil]
  · rename_i some_
    obtain ⟨count, countIs⟩ := Nat.exists_eq_succ_of_ne_zero some_
    have positive := NeZero.pos n
    rw [contents, countIs, List.range_succ, List.map_append, List.map_singleton,
      List.getLast?_concat]
    refine congrArg some (slot_congr b ?_)
    rw [← wf.closed, countIs, Nat.add_sub_assoc positive, Nat.mod_add_mod,
      show b.head + count.succ + (n - 1) = b.head + count + n by omega, Nat.add_mod_right]

end Buffer

end Circular

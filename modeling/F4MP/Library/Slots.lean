import Mathlib

/-!
# Slot tables

A fixed array of slots searched front to back, each slot free or holding a record under a key.
A table is the list of the slots that were ever written; the slots behind them are free. The
results say what a change does to `lookup`, the map from keys to records that the table stands for.
-/

namespace Slots

/-! ## The first slot that matches -/

section First
variable {α : Type} {p q : α → Bool} {f : α → α} {slots : List α}

/-- Change the first slot that satisfies `p`. -/
def modifyFirst (p : α → Bool) (f : α → α) : List α → List α
  | [] => []
  | a :: rest => if p a then f a :: rest else a :: modifyFirst p f rest

@[simp] theorem length_modifyFirst : (modifyFirst p f slots).length = slots.length := by
  induction slots with
  | nil => rfl
  | cons a rest ih =>
      rw [modifyFirst]
      split
      · rfl
      · simp [ih]

theorem modifyFirst_of_none (none : slots.find? p = none) : modifyFirst p f slots = slots := by
  induction slots with
  | nil => rfl
  | cons a rest ih =>
      rw [List.find?_cons] at none
      cases h : p a with
      | true => simp [h] at none
      | false =>
          simp only [h] at none
          simp [modifyFirst, h, ih none]

theorem mem_modifyFirst {a : α} (member : a ∈ modifyFirst p f slots) :
    a ∈ slots ∨ ∃ b ∈ slots, p b = true ∧ a = f b := by
  induction slots with
  | nil => exact .inl member
  | cons b rest ih =>
      rw [modifyFirst] at member
      split at member
      · rename_i h
        rcases List.mem_cons.mp member with rfl | later
        · exact .inr ⟨b, List.mem_cons_self, h, rfl⟩
        · exact .inl (List.mem_cons_of_mem b later)
      · rcases List.mem_cons.mp member with rfl | later
        · exact .inl List.mem_cons_self
        · rcases ih later with old | ⟨c, inside, rest⟩
          · exact .inl (List.mem_cons_of_mem b old)
          · exact .inr ⟨c, List.mem_cons_of_mem b inside, rest⟩

theorem mem_modifyFirst_found {a b : α} (found : slots.find? p = some a)
    (member : b ∈ modifyFirst p f slots) : b ∈ slots ∨ b = f a := by
  induction slots with
  | nil => cases found
  | cons c rest ih =>
      rw [List.find?_cons] at found
      rw [modifyFirst] at member
      split at found
      · rename_i hit
        obtain rfl := Option.some.inj found
        rw [if_pos hit] at member
        rcases List.mem_cons.mp member with rfl | later
        · exact .inr rfl
        · exact .inl (List.mem_cons_of_mem c later)
      · rename_i miss
        rw [if_neg (by rw [miss]; exact Bool.false_ne_true)] at member
        rcases List.mem_cons.mp member with rfl | later
        · exact .inl List.mem_cons_self
        · exact (ih found later).imp_left (List.mem_cons_of_mem c)

theorem mem_modifyFirst_self {a : α} (found : slots.find? p = some a) :
    f a ∈ modifyFirst p f slots := by
  induction slots with
  | nil => cases found
  | cons b rest ih =>
      rw [List.find?_cons] at found
      rw [modifyFirst]
      split at found
      · rename_i hit
        obtain rfl := Option.some.inj found
        rw [if_pos hit]
        exact List.mem_cons_self
      · rename_i miss
        rw [if_neg (by rw [miss]; exact Bool.false_ne_true)]
        exact List.mem_cons_of_mem b (ih found)

theorem getElem?_modifyFirst (slots : List α) (k : Nat) : (modifyFirst p f slots)[k]? = slots[k]? ∨
    ∃ a, slots[k]? = some a ∧ p a = true ∧ (modifyFirst p f slots)[k]? = some (f a) := by
  induction slots generalizing k with
  | nil => exact .inl rfl
  | cons a rest ih =>
      rw [modifyFirst]
      split
      · rename_i hit
        cases k with
        | zero => exact .inr ⟨a, rfl, hit, rfl⟩
        | succ k => exact .inl rfl
      · cases k with
        | zero => exact .inl rfl
        | succ k => simpa using ih k

theorem map_modifyFirst {β : Type} {g : α → β} (unseen : ∀ a, p a = true → g (f a) = g a) :
    (modifyFirst p f slots).map g = slots.map g := by
  induction slots with
  | nil => rfl
  | cons a rest ih =>
      cases h : p a with
      | true => simp [modifyFirst, h, unseen a h]
      | false => simp [modifyFirst, h, ih]

theorem map_modifyFirst_comm {β : Type} {g : α → β} {q : β → Bool} {h : β → β}
    (same : ∀ a, q (g a) = p a) (commutes : ∀ a, g (f a) = h (g a)) :
    (modifyFirst p f slots).map g = modifyFirst q h (slots.map g) := by
  induction slots with
  | nil => rfl
  | cons a rest ih =>
      cases hp : p a with
      | true => simp [modifyFirst, hp, same, commutes]
      | false => simp [modifyFirst, hp, same, ih]

theorem modifyFirst_eq_set {k : Nat} {a : α} (here : slots[k]? = some a) (hit : p a = true)
    (first : ∀ j b, j < k → slots[j]? = some b → p b = false) :
    modifyFirst p f slots = slots.set k (f a) := by
  induction slots generalizing k with
  | nil => cases here
  | cons b rest ih =>
      cases k with
      | zero =>
          obtain rfl : b = a := by simpa using here
          simp [modifyFirst, hit]
      | succ k =>
          have miss := first 0 b (Nat.succ_pos k) rfl
          have later := ih (by simpa using here) fun j c below at_ =>
            first (j + 1) c (Nat.succ_lt_succ below) (by simpa using at_)
          simp [modifyFirst, miss, later]

theorem modifyFirst_modifyFirst {g : α → α} (keeps : ∀ a, p a = true → p (f a) = true) :
    modifyFirst p g (modifyFirst p f slots) = modifyFirst p (g ∘ f) slots := by
  induction slots with
  | nil => rfl
  | cons a rest ih =>
      cases h : p a with
      | true => simp [modifyFirst, h, keeps a h]
      | false => simp [modifyFirst, h, ih]

theorem find?_modifyFirst_self (keeps : ∀ a, p a = true → p (f a) = true) :
    (modifyFirst p f slots).find? p = (slots.find? p).map f := by
  induction slots with
  | nil => rfl
  | cons a rest ih =>
      cases h : p a with
      | true => simp [modifyFirst, h, keeps a h]
      | false => simp [modifyFirst, h, ih]

theorem find?_modifyFirst_of_disjoint (before : ∀ a, p a = true → q a = false)
    (after : ∀ a, p a = true → q (f a) = false) :
    (modifyFirst p f slots).find? q = slots.find? q := by
  induction slots with
  | nil => rfl
  | cons a rest ih =>
      cases h : p a with
      | true => simp [modifyFirst, h, before a h, after a h]
      | false => simp [modifyFirst, h, List.find?_cons, ih]

theorem find?_modifyFirst_isSome (written : ∀ a, p a = true → q (f a) = true)
    (exists_slot : slots.any p = true) : ((modifyFirst p f slots).find? q).isSome = true := by
  induction slots with
  | nil => simp at exists_slot
  | cons a rest ih =>
      cases hp : p a with
      | true => simp [modifyFirst, hp, written a hp]
      | false =>
          simp only [List.any_cons, hp, Bool.false_or] at exists_slot
          rw [modifyFirst, hp, if_neg Bool.false_ne_true, List.find?_cons]
          split
          · rfl
          · exact ih exists_slot

theorem find?_modifyFirst_new {value : α} (written : q value = true)
    (exists_slot : slots.any p = true) (none : slots.find? q = none) :
    (modifyFirst p (fun _ => value) slots).find? q = some value := by
  induction slots with
  | nil => simp at exists_slot
  | cons a rest ih =>
      rw [List.find?_cons] at none
      cases hq : q a with
      | true => simp [hq] at none
      | false =>
          simp only [hq] at none
          cases hp : p a with
          | true => simp [modifyFirst, hp, written]
          | false =>
              simp only [List.any_cons, hp, Bool.false_or] at exists_slot
              simp [modifyFirst, hp, hq, ih exists_slot none]

theorem find?_set {a : α} {i : Nat} (inside : i < slots.length) (hit : p a = true) :
    (slots.set i a).find? p = some (((slots.take i).find? p).getD a) := by
  rw [List.set_eq_take_append_cons_drop, if_pos inside, List.find?_append,
    List.find?_cons_of_pos hit]
  cases (slots.take i).find? p <;> rfl

theorem countP_modifyFirst {a : α} (found : slots.find? p = some a) :
    (modifyFirst p f slots).countP q + (if q a then 1 else 0) =
      slots.countP q + if q (f a) then 1 else 0 := by
  induction slots with
  | nil => cases found
  | cons b rest ih =>
      rw [List.find?_cons] at found
      cases hit : p b with
      | true =>
          rw [hit] at found
          obtain rfl : b = a := Option.some.inj found
          simp only [modifyFirst, hit, if_true, List.countP_cons]
          omega
      | false =>
          rw [hit] at found
          have later := ih found
          simp only [modifyFirst, hit, Bool.false_eq_true, if_false, List.countP_cons]
          omega

end First

/-! ## Claiming a free slot -/

section Claim
variable {α : Type} {free p q : α → Bool} {f : α → α} {value : α} {capacity : Nat}
  {slots after : List α}

/-- Write `value` into the first free slot, if there is one. -/
def claim (capacity : Nat) (free : α → Bool) (value : α) (slots : List α) : Option (List α) :=
  if slots.any free then some (modifyFirst free (fun _ => value) slots)
  else if slots.length < capacity then some (slots ++ [value])
  else none

theorem claim_cases (claimed : claim capacity free value slots = some after) :
    (slots.any free = true ∧ after = modifyFirst free (fun _ => value) slots) ∨
    (slots.length < capacity ∧ after = slots ++ [value]) := by
  unfold claim at claimed
  split at claimed
  · rename_i h
    exact .inl ⟨h, (Option.some.inj claimed).symm⟩
  · split at claimed
    · rename_i h
      exact .inr ⟨h, (Option.some.inj claimed).symm⟩
    · cases claimed

theorem claim_isSome_iff {live : α → Bool} (isFree : ∀ a, free a = !live a)
    (fits : slots.length ≤ capacity) :
    (claim capacity free value slots).isSome ↔ slots.countP live < capacity := by
  have parts := List.length_eq_countP_add_countP live (l := slots)
  unfold claim
  split
  · rename_i room
    obtain ⟨a, inside, freeA⟩ := List.any_eq_true.mp room
    have some_free : 0 < slots.countP fun a => ¬ live a = true :=
      List.countP_pos_iff.mpr ⟨a, inside, by simpa [isFree] using freeA⟩
    simp only [Option.isSome_some, true_iff]
    omega
  · rename_i full
    have all_live : slots.countP (fun a => ¬ live a = true) = 0 :=
      List.countP_eq_zero.mpr fun a inside => by
        have := mt (fun freeA => List.any_eq_true.mpr ⟨a, inside, freeA⟩) full
        simpa [isFree] using this
    split <;> simp <;> omega

theorem countP_claim (unfree : ∀ a, free a = true → p a = false)
    (claimed : claim capacity free value slots = some after) :
    after.countP p = slots.countP p + if p value then 1 else 0 := by
  rcases claim_cases claimed with ⟨room, rfl⟩ | ⟨_, rfl⟩
  · obtain ⟨a, found⟩ := Option.isSome_iff_exists.mp (List.find?_isSome.mpr (List.any_eq_true.mp room))
    have counted := countP_modifyFirst (q := p) (f := fun _ => value) found
    simpa [unfree a (List.find?_some found)] using counted
  · simp [List.countP_append, List.countP_singleton]

theorem length_claim (claimed : claim capacity free value slots = some after)
    (fits : slots.length ≤ capacity) : after.length ≤ capacity := by
  rcases claim_cases claimed with ⟨_, rfl⟩ | ⟨room, rfl⟩
  · simpa using fits
  · simp only [List.length_append, List.length_singleton]
    omega

theorem mem_claim (claimed : claim capacity free value slots = some after) {a : α}
    (member : a ∈ after) : a ∈ slots ∨ a = value := by
  rcases claim_cases claimed with ⟨_, rfl⟩ | ⟨_, rfl⟩
  · rcases mem_modifyFirst member with old | ⟨b, _, _, eq⟩
    · exact .inl old
    · exact .inr eq
  · simpa using member

theorem mem_claim_self (claimed : claim capacity free value slots = some after) : value ∈ after := by
  rcases claim_cases claimed with ⟨room, rfl⟩ | ⟨_, rfl⟩
  · obtain ⟨a, found⟩ := Option.isSome_iff_exists.mp (List.find?_isSome.mpr (List.any_eq_true.mp room))
    exact mem_modifyFirst_self (f := fun _ => value) found
  · exact List.mem_append_right slots List.mem_cons_self

theorem getElem?_claim (claimed : claim capacity free value slots = some after) {k : Nat} {a : α}
    (at_ : after[k]? = some a) : slots[k]? = some a ∨ a = value := by
  rcases claim_cases claimed with ⟨_, rfl⟩ | ⟨_, rfl⟩
  · rcases getElem?_modifyFirst (p := free) (f := fun _ => value) slots k with
      same | ⟨_, _, _, written⟩
    · exact .inl (same ▸ at_)
    · exact .inr (Option.some.inj (at_.symm.trans written))
  · rw [List.getElem?_append] at at_
    split at at_
    · exact .inl at_
    · exact .inr (List.mem_singleton.mp (List.mem_of_getElem? at_))

theorem find?_claim_new (claimed : claim capacity free value slots = some after)
    (written : q value = true) (none : slots.find? q = none) : after.find? q = some value := by
  rcases claim_cases claimed with ⟨room, rfl⟩ | ⟨_, rfl⟩
  · exact find?_modifyFirst_new written room none
  · simp [List.find?_append, none, written]

theorem find?_claim_of_disjoint (claimed : claim capacity free value slots = some after)
    (unwritten : q value = false) (taken : ∀ a, free a = true → q a = false) :
    after.find? q = slots.find? q := by
  rcases claim_cases claimed with ⟨_, rfl⟩ | ⟨_, rfl⟩
  · exact find?_modifyFirst_of_disjoint taken fun _ _ => unwritten
  · simp [List.find?_append, unwritten]

end Claim

/-! ## Keyed records -/

/-- A slot type: whether the slot is in use, and the key of its record. -/
class Slot (α : Type) (κ : outParam Type) where
  live : α → Bool
  key : α → κ

section Keyed
variable {α κ : Type} [Slot α κ] {slots after : List α}

def free (a : α) : Bool := !Slot.live a

/-- No two slots in use have one key. -/
def Distinct (slots : List α) : Prop :=
  slots.Pairwise fun a b => Slot.live a = true → Slot.live b = true → Slot.key a ≠ Slot.key b

instance [DecidableEq κ] (slots : List α) : Decidable (Distinct slots) :=
  inferInstanceAs (Decidable (slots.Pairwise fun a b => _ → _ → Slot.key a ≠ Slot.key b))

theorem Distinct.of_unused (unused : ∀ a ∈ slots, Slot.live a = false) : Distinct slots :=
  List.pairwise_of_forall_mem_list fun a member _ _ live => by
    rw [unused a member] at live
    cases live

theorem Distinct.modifyFirst (distinct : Distinct slots) {p : α → Bool} {f : α → α}
    (keeps : ∀ a, p a = true → Slot.live (f a) = true →
      Slot.live a = true ∧ Slot.key (f a) = Slot.key a) :
    Distinct (modifyFirst p f slots) := by
  induction slots with
  | nil => exact .nil
  | cons a rest ih =>
      rw [Distinct, List.pairwise_cons] at distinct
      rw [Slots.modifyFirst]
      cases h : p a with
      | true =>
          simp only [if_true, Distinct, List.pairwise_cons]
          refine ⟨fun b member liveA liveB => ?_, distinct.2⟩
          obtain ⟨was, same⟩ := keeps a h liveA
          exact same ▸ distinct.1 b member was liveB
      | false =>
          simp only [Bool.false_eq_true, if_false, Distinct, List.pairwise_cons]
          refine ⟨fun b member liveA liveB => ?_, ih distinct.2⟩
          rcases mem_modifyFirst member with old | ⟨c, inside, hc, rfl⟩
          · exact distinct.1 b old liveA liveB
          · obtain ⟨was, same⟩ := keeps c hc liveB
            exact same ▸ distinct.1 c inside liveA was

/-- Records that keep their keys, or drop out of use, stay distinct. -/
theorem Distinct.map (distinct : Distinct slots) {f : α → α}
    (keeps : ∀ a, Slot.live (f a) = true → Slot.live a = true ∧ Slot.key (f a) = Slot.key a) :
    Distinct (slots.map f) := by
  refine List.pairwise_map.mpr (distinct.imp fun {a b} apart liveA liveB same => ?_)
  obtain ⟨wasA, keyA⟩ := keeps a liveA
  obtain ⟨wasB, keyB⟩ := keeps b liveB
  exact apart wasA wasB (keyA.symm.trans (same.trans keyB))

theorem Distinct.modify (distinct : Distinct slots) {i : Nat} {f : α → α}
    (keeps : ∀ a, Slot.live (f a) = true → Slot.live a = true ∧ Slot.key (f a) = Slot.key a) :
    Distinct (slots.modify i f) := by
  induction slots generalizing i with
  | nil => simpa using distinct
  | cons a rest ih =>
      rw [Distinct, List.pairwise_cons] at distinct
      cases i with
      | zero =>
          rw [List.modify_zero_cons]
          refine List.pairwise_cons.mpr ⟨fun b member liveA liveB => ?_, distinct.2⟩
          obtain ⟨was, same⟩ := keeps a liveA
          exact same ▸ distinct.1 b member was liveB
      | succ i =>
          rw [List.modify_succ_cons]
          refine List.pairwise_cons.mpr ⟨fun b member liveA liveB => ?_, ih distinct.2⟩
          obtain ⟨j, at_⟩ := List.mem_iff_getElem?.mp member
          rw [List.getElem?_modify] at at_
          obtain ⟨c, before, eq⟩ := Option.map_eq_some_iff.mp at_
          have inside := List.mem_of_getElem? before
          split at eq
          · obtain rfl := eq
            obtain ⟨was, same⟩ := keeps c liveB
            exact same ▸ distinct.1 c inside liveA was
          · obtain rfl := eq
            exact distinct.1 c inside liveA liveB

theorem Distinct.overwrite (distinct : Distinct slots) {p : α → Bool} {value : α}
    (unused : ∀ a ∈ slots, Slot.live a = true → Slot.key a ≠ Slot.key value) :
    Distinct (Slots.modifyFirst p (fun _ => value) slots) := by
  induction slots with
  | nil => exact .nil
  | cons a rest ih =>
      rw [Distinct, List.pairwise_cons] at distinct
      have later : ∀ b ∈ rest, _ := fun b member => unused b (List.mem_cons_of_mem a member)
      rw [Slots.modifyFirst]
      cases p a with
      | true =>
          simp only [if_true, Distinct, List.pairwise_cons]
          exact ⟨fun b member _ liveB same => later b member liveB same.symm, distinct.2⟩
      | false =>
          simp only [Bool.false_eq_true, if_false, Distinct, List.pairwise_cons]
          refine ⟨fun b member liveA liveB => ?_, ih distinct.2 later⟩
          rcases mem_modifyFirst member with old | ⟨_, _, _, rfl⟩
          · exact distinct.1 b old liveA liveB
          · exact unused a List.mem_cons_self liveA

variable [DecidableEq κ]

/-- The slot is in use and holds the record of `k`. -/
def holds (k : κ) (a : α) : Bool := Slot.live a && Slot.key a == k

def lookup (k : κ) (slots : List α) : Option α := slots.find? (holds k)

@[simp] theorem holds_iff {k : κ} {a : α} :
    holds k a = true ↔ Slot.live a = true ∧ Slot.key a = k := by
  simp [holds]

theorem holds_of_free {k : κ} {a : α} (h : free a = true) : holds k a = false := by
  simp_all [free, holds]

theorem holds_ne {j k : κ} (ne : j ≠ k) {a : α} (h : holds j a = true) : holds k a = false := by
  obtain ⟨_, rfl⟩ := holds_iff.mp h
  simp [holds, ne]

theorem lookup_key {k : κ} {a : α} (found : lookup k slots = some a) :
    Slot.live a = true ∧ Slot.key a = k :=
  holds_iff.mp (List.find?_some found)

theorem lookup_mem {k : κ} {a : α} (found : lookup k slots = some a) : a ∈ slots :=
  List.mem_of_find?_eq_some found

theorem lookup_eq_none {k : κ} :
    lookup k slots = none ↔ ∀ a ∈ slots, Slot.live a = true → Slot.key a ≠ k := by
  simp [lookup]

theorem lookup_of_unused (unused : ∀ a ∈ slots, Slot.live a = false) (k : κ) :
    lookup k slots = none :=
  lookup_eq_none.mpr fun a member live => by
    rw [unused a member] at live
    cases live

theorem lookup_of_mem (distinct : Distinct slots) {a : α} (member : a ∈ slots)
    (live : Slot.live a = true) : lookup (Slot.key a) slots = some a := by
  induction slots with
  | nil => cases member
  | cons b rest ih =>
      rw [Distinct, List.pairwise_cons] at distinct
      unfold lookup
      rw [List.find?_cons]
      rcases List.mem_cons.mp member with rfl | later
      · simp [holds, live]
      · cases h : holds (Slot.key a) b with
        | true =>
            obtain ⟨liveB, same⟩ := holds_iff.mp h
            exact absurd same (distinct.1 a later liveB live)
        | false => exact ih distinct.2 later

theorem modifyFirst_holds (distinct : Distinct slots) (k : κ) (f : α → α) :
    modifyFirst (holds k) f slots = slots.map fun a => if holds k a then f a else a := by
  induction slots with
  | nil => rfl
  | cons a rest ih =>
      rw [Distinct, List.pairwise_cons] at distinct
      rw [modifyFirst, List.map_cons]
      cases held : holds k a with
      | true =>
          obtain ⟨liveA, keyA⟩ := holds_iff.mp held
          have others : ∀ b ∈ rest, (if holds k b then f b else b) = b := fun b member => by
            refine if_neg fun heldB => ?_
            obtain ⟨liveB, keyB⟩ := holds_iff.mp heldB
            exact distinct.1 b member liveA liveB (keyA.trans keyB.symm)
          rw [if_pos rfl, if_pos rfl, List.map_congr_left others, List.map_id']
      | false => rw [if_neg Bool.false_ne_true, if_neg Bool.false_ne_true, ih distinct.2]

/-- A record in use is found under its key where it is. -/
theorem modify_holds (distinct : Distinct slots) {i : Nat} {a : α} (at_ : slots[i]? = some a)
    (live : Slot.live a = true) (f : α → α) :
    slots.modify i f = modifyFirst (holds (Slot.key a)) f slots := by
  induction slots generalizing i with
  | nil => cases at_
  | cons b rest ih =>
      rw [Distinct, List.pairwise_cons] at distinct
      rw [modifyFirst]
      cases i with
      | zero =>
          obtain rfl := Option.some.inj at_
          rw [if_pos (holds_iff.mpr ⟨live, rfl⟩)]
          rfl
      | succ i =>
          have other : ¬ holds (Slot.key a) b = true := fun held => by
            obtain ⟨liveB, same⟩ := holds_iff.mp held
            exact distinct.1 a (List.mem_of_getElem? at_) liveB live same
          rw [if_neg other, List.modify_succ_cons, ih distinct.2 at_]

theorem lookup_map {f : α → α} (live : ∀ a, Slot.live (f a) = Slot.live a)
    (key : ∀ a, Slot.key (f a) = Slot.key a) (k : κ) :
    lookup k (slots.map f) = (lookup k slots).map f := by
  have same : (holds k ∘ f) = holds k := by
    funext a
    simp only [Function.comp_apply, holds, live, key]
  rw [lookup, List.find?_map, same, lookup]

theorem Distinct.claim (distinct : Distinct slots) {value : α} {capacity : Nat}
    (claimed : claim capacity free value slots = some after)
    (fresh : lookup (Slot.key value) slots = none) : Distinct after := by
  have unused := lookup_eq_none.mp fresh
  rcases claim_cases claimed with ⟨_, rfl⟩ | ⟨_, rfl⟩
  · exact distinct.overwrite unused
  · refine List.pairwise_append.mpr ⟨distinct, List.pairwise_singleton _ _, ?_⟩
    intro a member b single live _
    rw [List.mem_singleton.mp single]
    exact unused a member live

/-! ### What a change does to the map -/

theorem lookup_claim {value : α} {capacity : Nat}
    (claimed : Slots.claim capacity free value slots = some after) (live : Slot.live value = true)
    (fresh : lookup (Slot.key value) slots = none) (k : κ) :
    lookup k after = if k = Slot.key value then some value else lookup k slots := by
  split
  · rename_i same
    subst same
    exact find?_claim_new claimed (by simp [holds, live]) fresh
  · rename_i other
    exact find?_claim_of_disjoint claimed (by simp [holds, Ne.symm other]) fun _ => holds_of_free

theorem lookup_update {j : κ} {f : α → α} (keeps : ∀ a, holds j a = true → holds j (f a) = true)
    (k : κ) : lookup k (modifyFirst (holds j) f slots) =
      if k = j then (lookup k slots).map f else lookup k slots := by
  split
  · rename_i same
    subst same
    exact find?_modifyFirst_self keeps
  · rename_i other
    exact find?_modifyFirst_of_disjoint (fun _ => holds_ne (Ne.symm other))
      fun a h => holds_ne (Ne.symm other) (keeps a h)

theorem lookup_release (distinct : Distinct slots) {j : κ} {dead : α}
    (released : Slot.live dead = false) (k : κ) :
    lookup k (modifyFirst (holds j) (fun _ => dead) slots) =
      if k = j then none else lookup k slots := by
  have unheld : ∀ i, holds i dead = false := fun i => by simp [holds, released]
  split
  · rename_i same
    subst same
    induction slots with
    | nil => rfl
    | cons a rest ih =>
        rw [Distinct, List.pairwise_cons] at distinct
        cases h : holds k a with
        | true =>
            obtain ⟨live, rfl⟩ := holds_iff.mp h
            simp only [modifyFirst, h, if_true, lookup, List.find?_cons, unheld]
            refine lookup_eq_none.mpr fun b member liveB same => ?_
            exact distinct.1 b member live liveB same.symm
        | false =>
            simp only [modifyFirst, h, Bool.false_eq_true, if_false, lookup, List.find?_cons]
            exact ih distinct.2
  · rename_i other
    exact find?_modifyFirst_of_disjoint (fun _ => holds_ne (Ne.symm other)) fun _ _ => unheld k

theorem Distinct.release (distinct : Distinct slots) {j : κ} {dead : α}
    (released : Slot.live dead = false) :
    Distinct (Slots.modifyFirst (holds j) (fun _ => dead) slots) :=
  distinct.modifyFirst fun a _ live => by simp [released] at live

theorem Distinct.update (distinct : Distinct slots) {j : κ} {f : α → α}
    (keeps : ∀ a, holds j a = true → holds j (f a) = true) :
    Distinct (Slots.modifyFirst (holds j) f slots) :=
  distinct.modifyFirst fun a held _ => by
    have after := keeps a held
    simp_all

/-! ### Storing under a key -/

/-- Write `value` into the slot that holds its key, or into a free one. -/
def store (capacity : Nat) (value : α) (slots : List α) : Option (List α) :=
  if slots.any (holds (Slot.key value)) then
    some (modifyFirst (holds (Slot.key value)) (fun _ => value) slots)
  else claim capacity free value slots

theorem length_store {capacity : Nat} {value : α}
    (stored : store capacity value slots = some after) (fits : slots.length ≤ capacity) :
    after.length ≤ capacity := by
  unfold store at stored
  split at stored
  · rw [← Option.some.inj stored, length_modifyFirst]
    exact fits
  · exact length_claim stored fits

theorem mem_store {capacity : Nat} {value a : α}
    (stored : store capacity value slots = some after) (member : a ∈ after) :
    a = value ∨ a ∈ slots := by
  unfold store at stored
  split at stored
  · rw [← Option.some.inj stored] at member
    rcases mem_modifyFirst member with kept | ⟨_, _, _, written⟩
    · exact .inr kept
    · exact .inl written
  · exact (mem_claim stored member).symm

theorem lookup_isSome_iff {k : κ} : slots.any (holds k) = true ↔ (lookup k slots).isSome := by
  simp [lookup, List.find?_isSome]

theorem lookup_none_of_any {k : κ} (absent : ¬ slots.any (holds k) = true) :
    lookup k slots = none := by
  rw [lookup_isSome_iff] at absent
  simpa using absent

theorem lookup_store {capacity : Nat} {value : α}
    (stored : store capacity value slots = some after) (live : Slot.live value = true) (k : κ) :
    lookup k after = if k = Slot.key value then some value else lookup k slots := by
  unfold store at stored
  split at stored
  · rename_i present
    rw [← Option.some.inj stored, lookup_update fun _ _ => by simp [holds, live]]
    split
    · rename_i same
      subst same
      obtain ⟨old, found⟩ := Option.isSome_iff_exists.mp (lookup_isSome_iff.mp present)
      rw [found, Option.map_some]
    · rfl
  · rename_i absent
    exact lookup_claim stored live (lookup_none_of_any absent) k

theorem Distinct.store (distinct : Distinct slots) {capacity : Nat} {value : α}
    (stored : store capacity value slots = some after) (live : Slot.live value = true) :
    Distinct after := by
  unfold Slots.store at stored
  split at stored
  · rw [← Option.some.inj stored]
    exact distinct.update fun _ _ => by simp [holds, live]
  · rename_i absent
    exact distinct.claim stored (lookup_none_of_any absent)

theorem store_isSome_iff {capacity : Nat} {value : α} (fits : slots.length ≤ capacity) :
    (store capacity value slots).isSome ↔
      (lookup (Slot.key value) slots).isSome ∨ slots.countP Slot.live < capacity := by
  unfold store
  split
  · rename_i held
    exact ⟨fun _ => .inl (lookup_isSome_iff.mp held), fun _ => rfl⟩
  · rename_i absent
    have claims := @claim_isSome_iff α free value capacity slots Slot.live (fun _ => rfl) fits
    exact claims.trans ⟨.inr, fun room =>
      room.resolve_left fun held => absent (lookup_isSome_iff.mpr held)⟩

/-! ### What every change keeps -/

/-- A property of tables that is kept by every change of records whose keys satisfy `S`. -/
structure Kept (capacity : Nat) (S : κ → Prop) (P : List α → Prop) : Prop where
  store : ∀ {slots after : List α} {value : α}, S (Slot.key value) → Slot.live value = true →
    store capacity value slots = some after → P slots → P after
  update : ∀ {slots : List α} {j : κ} {f : α → α},
    (∀ a, holds j a = true → holds j (f a) = true) → P slots → P (modifyFirst (holds j) f slots)
  release : ∀ {slots : List α} {j : κ} {dead : α}, Slot.live dead = false → P slots →
    P (modifyFirst (holds j) (fun _ => dead) slots)

theorem distinct_kept (capacity : Nat) :
    Kept capacity (fun _ => True) (Distinct : List α → Prop) where
  store _ live stored distinct := distinct.store stored live
  update keeps distinct := distinct.update keeps
  release released distinct := distinct.release released

/-- The keys in use satisfy `S`. -/
def Within (S : κ → Prop) (slots : List α) : Prop :=
  ∀ a ∈ slots, Slot.live a = true → S (Slot.key a)

theorem within_kept (capacity : Nat) (S : κ → Prop) :
    Kept capacity S (Within S : List α → Prop) where
  store named _ stored within a member live := by
    rcases mem_store stored member with rfl | old
    · exact named
    · exact within a old live
  update keeps within a member live := by
    rcases mem_modifyFirst member with old | ⟨b, inside, held, rfl⟩
    · exact within a old live
    · rw [(holds_iff.mp (keeps b held)).2, ← (holds_iff.mp held).2]
      exact within b inside (holds_iff.mp held).1
  release released within a member live := by
    rcases mem_modifyFirst member with old | ⟨_, _, _, rfl⟩
    · exact within a old live
    · rw [released] at live
      cases live

/-! ### Views -/

section View
variable {β : Type} {g : α → β}

/-- The map from keys to what `g` shows of their records. -/
def view (g : α → β) (slots : List α) : κ → Option β := fun k => (lookup k slots).map g

theorem view_claim {value : α} {capacity : Nat}
    (claimed : Slots.claim capacity free value slots = some after) (live : Slot.live value = true)
    (fresh : lookup (Slot.key value) slots = none) :
    view g after = Function.update (view g slots) (Slot.key value) (some (g value)) := by
  funext k
  rw [view, lookup_claim claimed live fresh, Function.update_apply]
  split <;> rfl

theorem view_store {value : α} {capacity : Nat} (stored : store capacity value slots = some after)
    (live : Slot.live value = true) :
    view g after = Function.update (view g slots) (Slot.key value) (some (g value)) := by
  funext k
  rw [view, lookup_store stored live, Function.update_apply]
  split <;> rfl

theorem view_update {j : κ} {f : α → α} {h : β → β}
    (keeps : ∀ a, holds j a = true → holds j (f a) = true) (seen : ∀ a, g (f a) = h (g a)) :
    view g (modifyFirst (holds j) f slots) =
      Function.update (view g slots) j ((view g slots j).map h) := by
  funext k
  rw [view, lookup_update keeps, Function.update_apply]
  split
  · rename_i same
    rw [view, same]
    cases lookup j slots with
    | none => rfl
    | some a => exact congrArg some (seen a)
  · rfl

theorem view_release (distinct : Distinct slots) {j : κ} {dead : α}
    (released : Slot.live dead = false) :
    view g (modifyFirst (holds j) (fun _ => dead) slots) =
      Function.update (view g slots) j none := by
  funext k
  rw [view, lookup_release distinct released, Function.update_apply]
  split <;> rfl

/-- Writing records one by one makes the map of their table. -/
theorem foldl_update (distinct : Distinct slots) (live : ∀ a ∈ slots, Slot.live a = true)
    (start : κ → Option β) (k : κ) :
    slots.foldl (fun map a => Function.update map (Slot.key a) (some (g a))) start k =
      (view g slots k).or (start k) := by
  induction slots generalizing start with
  | nil => rfl
  | cons a rest ih =>
      rw [Distinct, List.pairwise_cons] at distinct
      rw [List.forall_mem_cons] at live
      rw [List.foldl_cons, ih distinct.2 live.2, Function.update_apply]
      by_cases same : k = Slot.key a
      · subst same
        have absent : lookup (Slot.key a) rest = none :=
          lookup_eq_none.mpr fun b listed liveB same => distinct.1 b listed live.1 liveB same.symm
        have found : lookup (Slot.key a) (a :: rest) = some a :=
          lookup_of_mem (List.pairwise_cons.mpr distinct) List.mem_cons_self live.1
        rw [view, absent, view, found, if_pos rfl]
        rfl
      · have other : holds k a = false := by simp [holds, Ne.symm same]
        have skipped : lookup k (a :: rest) = lookup k rest := by
          rw [lookup, List.find?_cons, other]
          rfl
        rw [if_neg same, view, view, skipped]

end View

/-! ### Tables with the same keys -/

/-- The keys in use. -/
def keys (slots : List α) : List κ := (slots.filter Slot.live).map Slot.key

omit [DecidableEq κ] in
theorem Distinct.nodup_keys (distinct : Distinct slots) : (keys slots).Nodup := by
  rw [keys, List.Nodup, List.pairwise_map, List.pairwise_filter]
  exact distinct.imp fun apart liveA liveB same => apart liveA liveB same

theorem mem_keys_iff {k : κ} : k ∈ keys slots ↔ (lookup k slots).isSome := by
  simp [keys, ← lookup_isSome_iff, List.any_eq_true, and_assoc]

/-- Tables of distinct keys that know the same keys have as many records. -/
theorem countP_live_eq {β : Type} [Slot β κ] {others : List β} (distinct : Distinct slots)
    (distinct' : Distinct others)
    (same : ∀ k, (lookup k slots).isSome ↔ (lookup k others).isSome) :
    slots.countP Slot.live = others.countP Slot.live := by
  have perm : (keys slots).Perm (keys others) :=
    (List.perm_ext_iff_of_nodup distinct.nodup_keys distinct'.nodup_keys).mpr fun k => by
      rw [mem_keys_iff, mem_keys_iff, same]
  simpa [keys, List.countP_eq_length_filter] using perm.length_eq

omit [DecidableEq κ] in
/-- A table of distinct keys has no more records than there are keys to have. -/
theorem countP_live_le {ids : List κ} (distinct : Distinct slots)
    (within : ∀ a ∈ slots, Slot.live a = true → Slot.key a ∈ ids) :
    slots.countP Slot.live ≤ ids.length := by
  have known : keys slots ⊆ ids := by
    intro k member
    obtain ⟨a, listed, rfl⟩ := List.mem_map.mp member
    obtain ⟨inside, live⟩ := List.mem_filter.mp listed
    exact within a inside live
  have fits := (List.subperm_of_subset distinct.nodup_keys known).length_le
  rwa [keys, List.length_map, ← List.countP_eq_length_filter] at fits

/-! ### Reading by key -/

section Reading
variable {ids : List κ} {index : Nat}

/-- The records that a list of keys finds. -/
def reading (ids : List κ) (slots : List α) : List α := ids.filterMap fun k => lookup k slots

/-- A loop over keys that counts the records it finds and stops at the one behind `index` others. -/
def scan (index : Nat) (slots : List α) : List κ → Nat → Option α
  | [], _ => none
  | k :: ids, seen =>
      match lookup k slots with
      | none => scan index slots ids seen
      | some a => if seen = index then some a else scan index slots ids (seen + 1)

theorem scan_eq (ids : List κ) {seen : Nat} (below : seen ≤ index) :
    scan index slots ids seen = (reading ids slots)[index - seen]? := by
  induction ids generalizing seen with
  | nil => rfl
  | cons k ids ih =>
      rw [scan, reading, List.filterMap_cons]
      cases found : lookup k slots with
      | none => exact ih below
      | some a =>
          dsimp only
          split
          · rename_i reached
            rw [reached, Nat.sub_self]
            rfl
          · rename_i early
            rw [ih (by omega), show index - seen = index - (seen + 1) + 1 by omega]
            rfl

theorem mem_reading (distinct : Distinct slots) {a : α} :
    a ∈ reading ids slots ↔ a ∈ slots.filter Slot.live ∧ Slot.key a ∈ ids := by
  rw [reading, List.mem_filterMap, List.mem_filter]
  constructor
  · rintro ⟨k, listed, found⟩
    obtain ⟨live, rfl⟩ := lookup_key found
    exact ⟨⟨lookup_mem found, live⟩, listed⟩
  · rintro ⟨⟨inside, live⟩, listed⟩
    exact ⟨_, listed, lookup_of_mem distinct inside live⟩

theorem reading_nodup (nodup : ids.Nodup) : (reading ids slots).Nodup := by
  refine nodup.filterMap fun k k' a found found' => ?_
  rw [← (lookup_key found).2, ← (lookup_key found').2]

omit [DecidableEq κ] in
theorem Distinct.nodup_live (distinct : Distinct slots) : (slots.filter Slot.live).Nodup :=
  List.Nodup.of_map _ distinct.nodup_keys

theorem reading_subperm (distinct : Distinct slots) (nodup : ids.Nodup) :
    (reading ids slots).Subperm (slots.filter Slot.live) :=
  (reading_nodup nodup).subperm fun _ listed => ((mem_reading distinct).mp listed).1

theorem reading_perm (distinct : Distinct slots) (nodup : ids.Nodup)
    (whole : (reading ids slots).length = slots.countP Slot.live) :
    (reading ids slots).Perm (slots.filter Slot.live) := by
  rw [List.countP_eq_length_filter] at whole
  exact (reading_subperm distinct nodup).perm_of_length_le (Nat.le_of_eq whole.symm)

/-- Keys that find as many records as are in use find every one of them. -/
theorem reading_length_iff (distinct : Distinct slots) (nodup : ids.Nodup) :
    (reading ids slots).length = slots.countP Slot.live ↔
      Within (· ∈ ids) slots := by
  constructor
  · intro whole a inside live
    have perm := reading_perm distinct nodup whole
    exact ((mem_reading distinct).mp (perm.mem_iff.mpr (List.mem_filter.mpr ⟨inside, live⟩))).2
  · intro covered
    have other : (slots.filter Slot.live).Subperm (reading ids slots) :=
      distinct.nodup_live.subperm fun a listed => by
        obtain ⟨inside, live⟩ := List.mem_filter.mp listed
        exact (mem_reading distinct).mpr ⟨listed, covered a inside live⟩
    rw [List.countP_eq_length_filter]
    exact Nat.le_antisymm (reading_subperm distinct nodup).length_le other.length_le

end Reading

end Keyed

/-! ## Tables of a fixed capacity -/

/-- The slots written so far of an array of `capacity` slots. -/
structure Table (capacity : Nat) (α : Type) where
  slots : List α
  fits : slots.length ≤ capacity

namespace Table
variable {capacity : Nat} {α : Type}

/-- The array as `memset` to zero leaves it. -/
def empty : Table capacity α := ⟨[], Nat.zero_le _⟩

def modifyFirst (p : α → Bool) (f : α → α) (table : Table capacity α) : Table capacity α :=
  ⟨Slots.modifyFirst p f table.slots, by simpa using table.fits⟩

/-- Change the slot at an index. -/
def modify (i : Nat) (f : α → α) (table : Table capacity α) : Table capacity α :=
  ⟨table.slots.modify i f, by simpa using table.fits⟩

def claim (free : α → Bool) (value : α) (table : Table capacity α) : Option (Table capacity α) :=
  match h : Slots.claim capacity free value table.slots with
  | some slots => some ⟨slots, length_claim h table.fits⟩
  | none => none

def store {κ : Type} [Slot α κ] [DecidableEq κ] (value : α) (table : Table capacity α) :
    Option (Table capacity α) :=
  match h : Slots.store capacity value table.slots with
  | some slots => some ⟨slots, length_store h table.fits⟩
  | none => none

@[simp] theorem slots_modifyFirst {p : α → Bool} {f : α → α} {table : Table capacity α} :
    (table.modifyFirst p f).slots = Slots.modifyFirst p f table.slots := rfl

@[simp] theorem slots_modify {i : Nat} {f : α → α} {table : Table capacity α} :
    (table.modify i f).slots = table.slots.modify i f := rfl

theorem claim_slots {free : α → Bool} {value : α} {table after : Table capacity α}
    (claimed : table.claim free value = some after) :
    Slots.claim capacity free value table.slots = some after.slots := by
  unfold claim at claimed
  split at claimed
  · rename_i h
    rw [h, ← Option.some.inj claimed]
  · cases claimed

theorem claim_isSome_iff {κ : Type} [Slot α κ] (value : α) (table : Table capacity α) :
    (table.claim free value).isSome ↔ table.slots.countP Slot.live < capacity := by
  rw [← @Slots.claim_isSome_iff α free value capacity table.slots Slot.live (fun _ => rfl) table.fits]
  unfold claim
  split <;> simp_all

theorem store_slots {κ : Type} [Slot α κ] [DecidableEq κ] {value : α}
    {table after : Table capacity α} (stored : table.store value = some after) :
    Slots.store capacity value table.slots = some after.slots := by
  unfold store at stored
  split at stored
  · rename_i h
    rw [h, ← Option.some.inj stored]
  · cases stored

theorem store_isSome_iff {κ : Type} [Slot α κ] [DecidableEq κ] {value : α}
    {table : Table capacity α} : (table.store value).isSome ↔
      (lookup (Slot.key value) table.slots).isSome ∨ table.slots.countP Slot.live < capacity := by
  rw [← Slots.store_isSome_iff table.fits]
  unfold store
  split <;> simp_all

end Table

end Slots

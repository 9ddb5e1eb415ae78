import Mathlib

/-!
# Bounded grouping

A table of at most `capacity` groups, filled from the front. An item joins the group of its key, opens
a group if its key has none, and joins the last group once the table is full.
-/

namespace Grouping

variable {α κ : Type} [DecidableEq κ] (key : α → κ) (capacity : Nat)

structure Group (α κ : Type) where
  /-- The key of the item that opened the group. -/
  representative : κ
  members : List α

def Group.add (group : Group α κ) (x : α) : Group α κ :=
  { group with members := group.members ++ [x] }

def credit (groups : List (Group α κ)) (x : α) : List (Group α κ) :=
  match groups.findIdx? (·.representative == key x) with
  | some i => groups.modify i (·.add x)
  | none =>
      if groups.length < capacity then groups ++ [⟨key x, [x]⟩]
      else groups.modify (capacity - 1) (·.add x)

/-- The groups of a sequence of items. -/
def grouped (xs : List α) : List (Group α κ) := xs.foldl (credit key capacity) []

def keys (groups : List (Group α κ)) : List κ := groups.map (·.representative)

/-- The group at `i` counts the items of its key, and the last group also those whose key has none. -/
def counts (keys : List κ) (i : Nat) (k : κ) : Bool :=
  keys[i]? == some k || i + 1 == capacity && !keys.contains k

/-- Every item is in the group that counts it. -/
structure Grouped (xs : List α) (groups : List (Group α κ)) : Prop where
  distinct : (keys groups).Nodup
  bounded : groups.length ≤ capacity
  nonempty : ∀ group ∈ groups, group.members ≠ []
  members : ∀ i group, groups[i]? = some group →
    group.members = xs.filter fun x => counts capacity (keys groups) i (key x)
  /-- Until the table is full every item has the group of its key. -/
  complete : groups.length < capacity → ∀ x ∈ xs, key x ∈ keys groups

variable {key capacity} {xs : List α} {groups : List (Group α κ)}

omit [DecidableEq κ] in
@[simp] theorem keys_modify (groups : List (Group α κ)) (i : Nat) (x : α) :
    keys (groups.modify i (·.add x)) = keys groups := by
  induction groups generalizing i with
  | nil => simp [keys]
  | cons group rest ih =>
      cases i with
      | zero => rfl
      | succ i => exact congrArg (group.representative :: ·) (ih i)

omit [DecidableEq κ] in
theorem keys_getElem? {i : Nat} {group : Group α κ} (here : groups[i]? = some group) :
    (keys groups)[i]? = some group.representative := by
  rw [keys, List.getElem?_map, here, Option.map_some]

omit [DecidableEq κ] in
theorem Group.add_members (group : Group α κ) (x : α) :
    (group.add x).members = group.members ++ [x] := rfl

theorem Grouped.nil : Grouped key capacity [] ([] : List (Group α κ)) where
  distinct := List.nodup_nil
  bounded := Nat.zero_le _
  nonempty := fun _ member => absurd member List.not_mem_nil
  members := fun i _ none => by simp at none
  complete := fun _ _ member => absurd member List.not_mem_nil

theorem Grouped.join (grouped : Grouped key capacity xs groups) {x : α} {i : Nat}
    (here : ∀ j, j < groups.length → (counts capacity (keys groups) j (key x) = true ↔ j = i))
    (known : groups.length < capacity → key x ∈ keys groups) :
    Grouped key capacity (xs ++ [x]) (groups.modify i (·.add x)) where
  distinct := by
    rw [keys_modify]
    exact grouped.distinct
  bounded := by
    rw [List.length_modify]
    exact grouped.bounded
  nonempty := by
    intro group member
    obtain ⟨j, at_⟩ := List.mem_iff_getElem?.mp member
    rw [List.getElem?_modify] at at_
    obtain ⟨old, isOld, rfl⟩ := Option.map_eq_some_iff.mp at_
    split
    · exact List.append_ne_nil_of_right_ne_nil _ (List.cons_ne_nil x [])
    · exact grouped.nonempty old (List.mem_of_getElem? isOld)
  members := by
    intro j group at_
    rw [List.getElem?_modify] at at_
    obtain ⟨old, isOld, rfl⟩ := Option.map_eq_some_iff.mp at_
    have mine := here j (List.getElem?_eq_some_iff.mp isOld).1
    rw [keys_modify, List.filter_append, ← grouped.members j old isOld]
    split
    · rename_i same
      rw [Group.add_members, List.filter_singleton, mine.mpr same.symm]
      rfl
    · rename_i other
      rw [List.filter_singleton, Bool.eq_false_iff.mpr fun counted => other (mine.mp counted).symm]
      exact (List.append_nil _).symm
  complete := by
    rw [List.length_modify, keys_modify]
    intro room y member
    rcases List.mem_append.mp member with old | new
    · exact grouped.complete room y old
    · obtain rfl := List.mem_singleton.mp new
      exact known room

theorem Grouped.opened (grouped : Grouped key capacity xs groups) {x : α}
    (new : key x ∉ keys groups) (room : groups.length < capacity) :
    Grouped key capacity (xs ++ [x]) (groups ++ [⟨key x, [x]⟩]) := by
  have keysIs : keys (groups ++ [⟨key x, [x]⟩]) = keys groups ++ [key x] := List.map_append
  have length : (keys groups).length = groups.length := List.length_map _
  refine ⟨?_, ?_, ?_, ?_, ?_⟩
  · rw [keysIs]
    exact List.Nodup.append grouped.distinct (List.nodup_singleton _)
      (List.disjoint_singleton.mpr new)
  · rw [List.length_append]
    exact room
  · intro group member
    rcases List.mem_append.mp member with old | opened
    · exact grouped.nonempty group old
    · rw [List.mem_singleton.mp opened]
      exact List.cons_ne_nil x []
  · intro j group at_
    rw [keysIs, List.filter_append]
    rcases Nat.lt_or_ge j groups.length with old | last
    · rw [List.getElem?_append_left old] at at_
      have same : ∀ k, counts capacity (keys groups ++ [key x]) j k =
          counts capacity (keys groups) j k := by
        intro k
        have notLast : (j + 1 == capacity) = false := beq_false_of_ne (by omega)
        rw [counts, counts, List.getElem?_append_left (length ▸ old), notLast, Bool.false_and,
          Bool.false_and]
      have notMine : counts capacity (keys groups ++ [key x]) j (key x) = false := by
        rw [counts, List.getElem?_append_left (length ▸ old), beq_false_of_ne (by omega : j + 1 ≠ capacity),
          Bool.false_and, Bool.or_false]
        exact beq_false_of_ne fun found => new (List.mem_of_getElem? found)
      rw [List.filter_singleton, notMine, grouped.members j group at_]
      simp only [same]
      exact (List.append_nil _).symm
    · obtain rfl : j = groups.length := by
        have := (List.getElem?_eq_some_iff.mp at_).1
        rw [List.length_append, List.length_singleton] at this
        omega
      rw [List.getElem?_concat_length] at at_
      obtain rfl := Option.some.inj at_
      have opens : (keys groups ++ [key x])[groups.length]? = some (key x) := by
        rw [← length, List.getElem?_concat_length]
      have others : xs.filter (fun y => counts capacity (keys groups ++ [key x]) groups.length (key y)) =
          [] := by
        refine List.filter_eq_nil_iff.mpr fun y member => ?_
        have known := grouped.complete room y member
        have different : (some (key x) == some (key y)) = false :=
          beq_false_of_ne fun same => new (Option.some.inj same ▸ known)
        rw [counts, opens, different, List.contains_iff_mem.mpr (List.mem_append_left _ known)]
        simp
      have mine : counts capacity (keys groups ++ [key x]) groups.length (key x) = true := by
        rw [counts, opens, beq_self_eq_true, Bool.true_or]
      rw [others, List.filter_singleton, mine]
      rfl
  · intro more y member
    rw [keysIs, List.mem_append]
    rcases List.mem_append.mp member with old | opened
    · exact .inl (grouped.complete room y old)
    · exact .inr (List.mem_singleton.mpr (congrArg key (List.mem_singleton.mp opened)))

theorem Grouped.credit (grouped : Grouped key capacity xs groups) (positive : 0 < capacity) (x : α) :
    Grouped key capacity (xs ++ [x]) (credit key capacity groups x) := by
  have length : (keys groups).length = groups.length := List.length_map _
  rw [Grouping.credit]
  split
  · rename_i i found
    obtain ⟨inside, same, _⟩ := List.findIdx?_eq_some_iff_getElem.mp found
    have at_ : (keys groups)[i]? = some (key x) := by
      rw [keys_getElem? (List.getElem?_eq_getElem inside), beq_iff_eq.mp same]
    have known : key x ∈ keys groups := List.mem_of_getElem? at_
    refine grouped.join (fun j within => ?_) fun _ => known
    rw [counts, List.contains_iff_mem.mpr known, Bool.not_true, Bool.and_false, Bool.or_false,
      beq_iff_eq, ← at_]
    exact List.getElem?_inj (length ▸ within) grouped.distinct
  · rename_i none
    have new : key x ∉ keys groups := by
      intro known
      obtain ⟨group, member, same⟩ := List.mem_map.mp known
      exact absurd (List.findIdx?_eq_none_iff.mp none group member) (by simp [same])
    split
    · rename_i room
      exact grouped.opened new room
    · rename_i full
      have all := grouped.bounded
      refine grouped.join (fun j within => ?_) fun room => absurd room full
      have notFound : ((keys groups)[j]? == some (key x)) = false :=
        beq_false_of_ne fun found => new (List.mem_of_getElem? found)
      rw [counts, notFound, List.contains_eq_mem, decide_eq_false new, Bool.false_or, Bool.not_false,
        Bool.and_true, beq_iff_eq]
      omega

theorem grouped_concat (xs : List α) (x : α) : grouped key capacity (xs ++ [x]) =
    Grouping.credit key capacity (grouped key capacity xs) x := by
  rw [grouped, List.foldl_append]
  rfl

theorem credit_grows {group : Group α κ} (member : group ∈ groups) (x : α) :
    ∃ group' ∈ Grouping.credit key capacity groups x,
      group.members.length ≤ group'.members.length := by
  have joins : ∀ i, ∃ group' ∈ groups.modify i (·.add x),
      group.members.length ≤ group'.members.length := by
    intro i
    obtain ⟨j, at_⟩ := List.mem_iff_getElem?.mp member
    refine ⟨_, List.mem_of_getElem? (l := groups.modify i _) (i := j) (by
      rw [List.getElem?_modify, at_]
      rfl), ?_⟩
    split
    · rw [Group.add_members, List.length_append]
      exact Nat.le_add_right _ _
    · exact Nat.le_refl _
  rw [Grouping.credit]
  split
  · exact joins _
  · split
    · exact ⟨group, List.mem_append_left _ member, Nat.le_refl _⟩
    · exact joins _

theorem grouped_grouped (positive : 0 < capacity) (xs : List α) :
    Grouped key capacity xs (grouped key capacity xs) := by
  induction xs using List.reverseRecOn with
  | nil => exact .nil
  | append_singleton xs x ih =>
      rw [grouped_concat]
      exact ih.credit positive x

end Grouping

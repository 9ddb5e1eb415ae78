import Mathlib

/-!
# The first maximum of a scan

A loop over the slots of a table that keeps the best candidate so far, and replaces it only by a
strictly better one.
-/

namespace Maximum
variable {α K : Type} [LinearOrder K] {score : α → Option K} {slots : List α}

/-- One turn of the loop: the index and the score of the best candidate so far. -/
def better (score : α → Option K) (best : Option (Nat × K)) (slot : α × Nat) : Option (Nat × K) :=
  match score slot.1 with
  | none => best
  | some s =>
      match best with
      | none => some (slot.2, s)
      | some (_, top) => if top < s then some (slot.2, s) else best

/-- No candidate scores better than the one at `i`, and none before it as well. -/
structure First (score : α → Option K) (slots : List α) (i : Nat) (top : K) : Prop where
  scored : ∃ a, slots[i]? = some a ∧ score a = some top
  most : ∀ (j : Nat) b s, slots[j]? = some b → score b = some s → s ≤ top
  earliest : ∀ (j : Nat) b, slots[j]? = some b → score b = some top → i ≤ j

/-- What the loop has found. -/
def Found (score : α → Option K) (slots : List α) : Option (Nat × K) → Prop
  | none => ∀ a ∈ slots, score a = none
  | some (i, top) => First score slots i top

theorem getElem?_snoc {a b : α} {j : Nat} (at_ : (slots ++ [a])[j]? = some b) :
    slots[j]? = some b ∨ j = slots.length ∧ b = a := by
  rcases Nat.lt_or_ge j slots.length with inside | outside
  · exact .inl (by rwa [List.getElem?_append_left inside] at at_)
  · rw [List.getElem?_append_right outside] at at_
    obtain ⟨zero, rfl⟩ := List.getElem?_eq_some_iff.mp at_
    rw [List.length_singleton, Nat.lt_one_iff] at zero
    refine .inr ⟨by omega, ?_⟩
    simp only [zero, List.getElem_cons_zero]

theorem First.inside {i : Nat} {top : K} (first : First score slots i top) : i < slots.length := by
  obtain ⟨a, at_, _⟩ := first.scored
  exact (List.getElem?_eq_some_iff.mp at_).1

theorem First.keep {i : Nat} {top : K} {a : α} (first : First score slots i top)
    (worse : ∀ s, score a = some s → s ≤ top) : First score (slots ++ [a]) i top := by
  refine ⟨?_, fun j b s at_ scored => ?_, fun j b at_ scored => ?_⟩
  · obtain ⟨winner, at_, scored⟩ := first.scored
    exact ⟨winner, by rw [List.getElem?_append_left first.inside, at_], scored⟩
  · rcases getElem?_snoc at_ with before | ⟨_, rfl⟩
    · exact first.most j b s before scored
    · exact worse s scored
  · rcases getElem?_snoc at_ with before | ⟨last, _⟩
    · exact first.earliest j b before scored
    · exact last ▸ first.inside.le

theorem First.replace {top : K} {a : α} (scored : score a = some top)
    (below : ∀ (j : Nat) b s, slots[j]? = some b → score b = some s → s < top) :
    First score (slots ++ [a]) slots.length top := by
  refine ⟨⟨a, by simp, scored⟩, fun j b s at_ isScore => ?_, fun j b at_ isScore => ?_⟩
  · rcases getElem?_snoc at_ with before | ⟨_, rfl⟩
    · exact (below j b s before isScore).le
    · exact (Option.some.inj (isScore.symm.trans scored)).le
  · rcases getElem?_snoc at_ with before | ⟨last, _⟩
    · exact absurd (below j b top before isScore) (lt_irrefl top)
    · exact last.ge

/-- The loop finds the first maximum, if there is a candidate. -/
theorem scan_found (score : α → Option K) (slots : List α) :
    Found score slots (slots.zipIdx.foldl (better score) none) := by
  induction slots using List.reverseRecOn with
  | nil => exact fun a listed => (List.not_mem_nil listed).elim
  | append_singleton slots a ih =>
      rw [List.zipIdx_append, List.foldl_append, Nat.zero_add, List.zipIdx_singleton,
        List.foldl_cons, List.foldl_nil]
      generalize slots.zipIdx.foldl (better score) none = best at ih
      cases scored : score a with
      | none =>
          simp only [better, scored]
          cases best with
          | none =>
              intro b listed
              rcases List.mem_append.mp listed with before | last
              · exact ih b before
              · exact List.mem_singleton.mp last ▸ scored
          | some best => exact First.keep ih fun s isScore => by rw [scored] at isScore; cases isScore
      | some s =>
          simp only [better, scored]
          cases best with
          | none =>
              refine First.replace scored fun j b t at_ isScore => ?_
              rw [ih b (List.mem_of_getElem? at_)] at isScore
              cases isScore
          | some best =>
              obtain ⟨i, top⟩ := best
              simp only
              split
              · rename_i higher
                exact First.replace scored fun j b t at_ isScore =>
                  lt_of_le_of_lt (First.most ih j b t at_ isScore) higher
              · rename_i lower
                refine First.keep ih fun t isScore => ?_
                obtain rfl := Option.some.inj (scored.symm.trans isScore)
                exact not_lt.mp lower

end Maximum

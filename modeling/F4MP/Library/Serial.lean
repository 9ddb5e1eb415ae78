import F4MP.Library.Slots
import F4MP.Library.Transition

/-!
# Serial numbers

Records under keys that a counter gives out. A key that is given up is never given out again, so a key
names one record for as long as the counter does not wrap around; what a record never changes, its key
determines.
-/

namespace Slots
open Transition

variable {α κ ι : Type} [Slot α κ] {number : κ → Nat} {mark : α → ι} {next next' next'' : Nat}
  {slots after later : List α}

/-- The records in use have keys of their own that the counter has passed. -/
structure Issued (number : κ → Nat) (next : Nat) (slots : List α) : Prop where
  distinct : Distinct slots
  below : ∀ a ∈ slots, Slot.live a = true → number (Slot.key a) < next

/-- A change after which every record in use is one from before, or the one that took the counter's key.
-/
structure Issues (number : κ → Nat) (mark : α → ι) (next next' : Nat) (slots after : List α) :
    Prop where
  counts : next ≤ next'
  distinct : Issued number next slots → Distinct after
  origin : ∀ a ∈ after, Slot.live a = true →
    (∃ b ∈ slots, Slot.live b = true ∧ Slot.key b = Slot.key a ∧ mark b = mark a) ∨
      number (Slot.key a) = next ∧ next < next'

namespace Issues

theorem refl (counts : next ≤ next') : Issues number mark next next' slots slots :=
  ⟨counts, fun issued => issued.distinct, fun a listed live => .inl ⟨a, listed, live, rfl, rfl⟩⟩

theorem issued (issues : Issues number mark next next' slots after)
    (before : Issued number next slots) : Issued number next' after := by
  refine ⟨issues.distinct before, fun a listed live => ?_⟩
  rcases issues.origin a listed live with ⟨b, old, was, same, _⟩ | ⟨new, grew⟩
  · exact same ▸ (before.below b old was).trans_le issues.counts
  · exact new ▸ grew

/-- Two changes without a new record. -/
theorem trans (first : Issues number mark next next slots after)
    (second : Issues number mark next next after later) :
    Issues number mark next next slots later := by
  refine ⟨le_rfl, fun issued => second.distinct (first.issued issued), fun a listed live => ?_⟩
  rcases second.origin a listed live with ⟨b, between, was, key, same⟩ | ⟨_, grew⟩
  · rcases first.origin b between was with ⟨c, old, had, key', same'⟩ | ⟨_, grew⟩
    · exact .inl ⟨c, old, had, key'.trans key, same'.trans same⟩
    · exact absurd grew (lt_irrefl next)
  · exact absurd grew (lt_irrefl next)

theorem foldl {σ β : Type} (table : σ → List α) {f : σ → β → σ}
    (each : ∀ s b, Issues number mark next next (table s) (table (f s b))) (s : σ) (bs : List β) :
    Issues number mark next next (table s) (table (bs.foldl f s)) := by
  induction bs generalizing s with
  | nil => exact refl le_rfl
  | cons b bs ih => exact (each s b).trans (ih (f s b))

/-- The records that `p` selects are changed, but for what names them, or given up. -/
theorem modifyFirst (counts : next ≤ next') {p : α → Bool} {f : α → α}
    (keeps : ∀ a, p a = true → Slot.live (f a) = true →
      Slot.live a = true ∧ Slot.key (f a) = Slot.key a ∧ mark (f a) = mark a) :
    Issues number mark next next' slots (Slots.modifyFirst p f slots) := by
  refine ⟨counts, fun issued => issued.distinct.modifyFirst fun a hit live => ?_,
    fun a listed live => .inl ?_⟩
  · obtain ⟨was, key, _⟩ := keeps a hit live
    exact ⟨was, key⟩
  · rcases mem_modifyFirst listed with old | ⟨b, old, hit, rfl⟩
    · exact ⟨a, old, live, rfl, rfl⟩
    · obtain ⟨was, key, same⟩ := keeps b hit live
      exact ⟨b, old, was, key.symm, same.symm⟩

theorem modify (counts : next ≤ next') {i : Nat} {f : α → α}
    (keeps : ∀ a, Slot.live (f a) = true →
      Slot.live a = true ∧ Slot.key (f a) = Slot.key a ∧ mark (f a) = mark a) :
    Issues number mark next next' slots (slots.modify i f) := by
  refine ⟨counts, fun issued => issued.distinct.modify fun a live => ?_, fun a listed live => .inl ?_⟩
  · obtain ⟨was, key, _⟩ := keeps a live
    exact ⟨was, key⟩
  · obtain ⟨j, at_⟩ := List.mem_iff_getElem?.mp listed
    rw [List.getElem?_modify] at at_
    obtain ⟨b, before, eq⟩ := Option.map_eq_some_iff.mp at_
    have old := List.mem_of_getElem? before
    split at eq
    · obtain rfl := eq
      obtain ⟨was, key, same⟩ := keeps b live
      exact ⟨b, old, was, key.symm, same.symm⟩
    · obtain rfl := eq
      exact ⟨b, old, live, rfl, rfl⟩

theorem claim [DecidableEq κ] {capacity : Nat} {value : α}
    (claimed : Slots.claim capacity free value slots = some after)
    (numbered : number (Slot.key value) = next) (grew : next < next') :
    Issues number mark next next' slots after := by
  refine ⟨grew.le, fun issued => issued.distinct.claim claimed ?_, fun a listed live => ?_⟩
  · refine lookup_eq_none.mpr fun a listed live same => ?_
    have below := issued.below a listed live
    rw [same, numbered] at below
    exact lt_irrefl next below
  · rcases mem_claim claimed listed with old | rfl
    · exact .inl ⟨a, old, live, rfl, rfl⟩
    · exact .inr ⟨numbered, grew⟩

end Issues

/-! ## Runs -/

section Runs
variable {σ ε : Type} {step : σ → ε → σ} {counter : σ → Nat} {table : σ → List α} {s : σ}
  {P : σ → ε → Prop} {events more : List ε}

theorem run_issued (issues : ∀ s e, P s e → Issues number mark (counter s) (counter (step s e))
      (table s) (table (step s e)))
    (start : Issued number (counter s) (table s)) (along : Along step P s events) :
    Issued number (counter (run step s events)) (table (run step s events)) :=
  have preserved : ∀ s e, Issued number (counter s) (table s) → P s e →
      Issued number (counter (step s e)) (table (step s e)) :=
    fun s e issued meets => (issues s e meets).issued issued
  run_invariant preserved start along

/-- A record in use after a run has a key that the counter had not passed before it, or is one that was
in use already. -/
theorem run_origin (issues : ∀ s e, P s e → Issues number mark (counter s) (counter (step s e))
      (table s) (table (step s e))) (along : Along step P s events) {a : α}
    (listed : a ∈ table (run step s events)) (live : Slot.live a = true) :
    (∃ b ∈ table s, Slot.live b = true ∧ Slot.key b = Slot.key a ∧ mark b = mark a) ∨
      counter s ≤ number (Slot.key a) := by
  induction events generalizing s with
  | nil => exact .inl ⟨a, listed, live, rfl, rfl⟩
  | cons e rest ih =>
      have first := issues s e along.1
      rcases ih along.2 listed with ⟨b, old, was, key, same⟩ | late
      · rcases first.origin b old was with ⟨c, older, had, key', same'⟩ | ⟨new, _⟩
        · exact .inl ⟨c, older, had, key'.trans key, same'.trans same⟩
        · exact .inr (key ▸ new.ge)
      · exact .inr (first.counts.trans late)

/-- A key that is in use at two times names one record. -/
theorem run_same [DecidableEq κ]
    (issues : ∀ s e, P s e → Issues number mark (counter s) (counter (step s e))
      (table s) (table (step s e)))
    (start : Issued number (counter s) (table s)) (along : Along step P s events) {a b : α}
    (listed : a ∈ table s) (live : Slot.live a = true) (later : b ∈ table (run step s events))
    (still : Slot.live b = true) (same : Slot.key b = Slot.key a) : mark b = mark a := by
  rcases run_origin issues along later still with ⟨c, old, was, key, marked⟩ | late
  · have found := lookup_of_mem start.distinct old was
    rw [key.trans same, lookup_of_mem start.distinct listed live] at found
    rw [← marked, Option.some.inj found]
  · rw [same] at late
    exact absurd late (not_le.mpr (start.below a listed live))

/-- A key that the counter has passed and that is not in use stays unused. -/
theorem run_retired [DecidableEq κ]
    (issues : ∀ s e, P s e → Issues number mark (counter s) (counter (step s e))
      (table s) (table (step s e))) (along : Along step P s events) {k : κ}
    (passed : number k < counter s) (unused : lookup k (table s) = none) :
    lookup k (table (run step s events)) = none := by
  refine lookup_eq_none.mpr fun b listed live same => ?_
  rcases run_origin issues along listed live with ⟨c, old, was, key, _⟩ | late
  · exact lookup_eq_none.mp unused c old was (key.trans same)
  · rw [same] at late
    exact absurd passed (not_lt.mpr late)

end Runs

end Slots

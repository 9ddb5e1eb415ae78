import Mathlib

/-!
# Runs of a step function
-/

namespace Transition
variable {σ ε α : Type} {step : σ → ε → σ} {s : σ} {events more : List ε}

/-- The state after a list of events. -/
def run (step : σ → ε → σ) (s : σ) (events : List ε) : σ := events.foldl step s

@[simp] theorem run_nil : run step s [] = s := rfl

@[simp] theorem run_cons {e : ε} : run step s (e :: events) = run step (step s e) events := rfl

theorem run_append : run step s (events ++ more) = run step (run step s events) more :=
  List.foldl_append

theorem run_snoc {e : ε} : run step s (events ++ [e]) = step (run step s events) e := run_append

/-- What the steps of a run emit, in order. -/
def emitted (step : σ → ε → σ) (emits : σ → ε → Option α) : σ → List ε → List α
  | _, [] => []
  | s, e :: rest => (emits s e).toList ++ emitted step emits (step s e) rest

theorem emitted_append {emits : σ → ε → Option α} :
    emitted step emits s (events ++ more) =
      emitted step emits s events ++ emitted step emits (run step s events) more := by
  induction events generalizing s with
  | nil => rfl
  | cons e rest ih =>
      rw [List.cons_append, emitted, ih, emitted, List.append_assoc, run_cons]

/-- `P` holds of every step of the run, each taken with the state before it. -/
def Along (step : σ → ε → σ) (P : σ → ε → Prop) : σ → List ε → Prop
  | _, [] => True
  | s, e :: rest => P s e ∧ Along step P (step s e) rest

instance Along.decidable {P : σ → ε → Prop} [∀ s e, Decidable (P s e)] :
    ∀ (s : σ) (events : List ε), Decidable (Along step P s events)
  | _, [] => inferInstanceAs (Decidable True)
  | s, e :: rest =>
      have := Along.decidable (P := P) (step s e) rest
      inferInstanceAs (Decidable (P s e ∧ Along step P (step s e) rest))

theorem Along.imp {P Q : σ → ε → Prop} (weaker : ∀ s e, P s e → Q s e)
    (all : Along step P s events) : Along step Q s events := by
  induction events generalizing s with
  | nil => trivial
  | cons e rest ih => exact ⟨weaker s e all.1, ih all.2⟩

theorem along_always {P : σ → ε → Prop} (always : ∀ s e, P s e) : Along step P s events := by
  induction events generalizing s with
  | nil => trivial
  | cons e rest ih => exact ⟨always s e, ih⟩

theorem along_and {P Q : σ → ε → Prop} : Along step (fun s e => P s e ∧ Q s e) s events ↔
    Along step P s events ∧ Along step Q s events := by
  induction events generalizing s with
  | nil => simp [Along]
  | cons e rest ih => simp [Along, ih, and_and_and_comm]

theorem along_append {P : σ → ε → Prop} :
    Along step P s (events ++ more) ↔
      Along step P s events ∧ Along step P (run step s events) more := by
  induction events generalizing s with
  | nil => simp [Along]
  | cons e rest ih => simp [Along, ih, and_assoc]

/-- Along a run each event meets `P` at the state that the events before it lead to. -/
theorem along_iff {P : σ → ε → Prop} : Along step P s events ↔
    ∀ before e after, events = before ++ e :: after → P (run step s before) e := by
  constructor
  · rintro all before e after rfl
    exact (along_append.mp all).2.1
  · intro each
    induction events generalizing s with
    | nil => trivial
    | cons e rest ih =>
        refine ⟨each [] e rest rfl, ih fun before e' after split => ?_⟩
        rw [← run_cons]
        exact each (e :: before) e' after (by rw [split, List.cons_append])

/-- A property of states holds of all that a run reaches if it holds behind every step. -/
theorem reached_iff {P : σ → Prop} (initial : P s) :
    (∀ before, before <+: events → P (run step s before)) ↔
      Along step (fun s e => P (step s e)) s events := by
  rw [along_iff]
  constructor
  · rintro reached before e after rfl
    have now := reached (before ++ [e]) ⟨after, by simp⟩
    rwa [run_snoc] at now
  · intro behind before isPrefix
    obtain ⟨rest, rfl⟩ := isPrefix
    induction before using List.reverseRecOn with
    | nil => exact initial
    | append_singleton front e _ =>
        rw [run_snoc]
        exact behind front e rest (by simp)

/-- What every step meeting `P` preserves holds after every run of such steps. -/
theorem run_invariant {P : σ → ε → Prop} {Inv : σ → Prop}
    (preserved : ∀ s e, Inv s → P s e → Inv (step s e)) (initial : Inv s)
    (all : Along step P s events) : Inv (run step s events) := by
  induction events generalizing s with
  | nil => exact initial
  | cons e rest ih => exact ih (preserved s e initial all.1) all.2

/-- A property of steps that an invariant implies holds of every step of the run. -/
theorem along_of_invariant {P Q : σ → ε → Prop} {Inv : σ → Prop}
    (preserved : ∀ s e, Inv s → P s e → Inv (step s e)) (implied : ∀ s e, Inv s → P s e → Q s e)
    (initial : Inv s) (all : Along step P s events) : Along step Q s events := by
  induction events generalizing s with
  | nil => trivial
  | cons e rest ih =>
      exact ⟨implied s e initial all.1, ih (preserved s e initial all.1) all.2⟩

/-- Two properties of steps that agree wherever the invariant holds, and that keep it, hold along the
same runs. -/
theorem along_congr {A P Q : σ → ε → Prop} {Inv : σ → Prop}
    (same : ∀ s e, Inv s → A s e → (P s e ↔ Q s e))
    (preserved : ∀ s e, Inv s → A s e → Q s e → Inv (step s e)) (initial : Inv s)
    (all : Along step A s events) : Along step P s events ↔ Along step Q s events := by
  induction events generalizing s with
  | nil => exact Iff.rfl
  | cons e rest ih =>
      have now := same s e initial all.1
      constructor
      · rintro ⟨first, later⟩
        have kept := preserved s e initial all.1 (now.mp first)
        exact ⟨now.mp first, (ih kept all.2).mp later⟩
      · rintro ⟨first, later⟩
        have kept := preserved s e initial all.1 first
        exact ⟨now.mpr first, (ih kept all.2).mpr later⟩

end Transition

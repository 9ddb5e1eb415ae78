import Mathlib

/-!
# Channels that hold messages back

Some messages are delivered in the order in which they are sent, each once. The others may be held
back behind what is sent after them, or never be delivered.
-/

namespace Delivery
variable {α : Type} {kept : α → Bool} {held sent got : List α}

/-- The channel holds `held`, is sent `sent` and delivers `got`. -/
inductive Delivers (kept : α → Bool) : List α → List α → List α → Prop where
  | done {held : List α} : Delivers kept held [] []
  | pass {held sent got : List α} {a : α} : Delivers kept held sent got →
      Delivers kept held (a :: sent) (a :: got)
  | hold {held sent got : List α} {a : α} : kept a = false →
      Delivers kept (a :: held) sent got → Delivers kept held (a :: sent) got
  | release {before after sent got : List α} {a : α} : Delivers kept (before ++ after) sent got →
      Delivers kept (before ++ a :: after) sent (a :: got)

namespace Delivers

theorem filter_kept (delivers : Delivers kept held sent got) (none : held.filter kept = []) :
    got.filter kept = sent.filter kept := by
  induction delivers with
  | done => rfl
  | pass _ ih => rw [List.filter_cons, List.filter_cons, ih none]
  | hold free _ ih =>
      have rest := ih (by rw [List.filter_cons_of_neg (by rw [free]; exact Bool.false_ne_true), none])
      rw [rest, List.filter_cons_of_neg (by rw [free]; exact Bool.false_ne_true)]
  | @release before after _ _ a _ ih =>
      rw [List.filter_append, List.filter_cons, List.append_eq_nil_iff] at none
      have free : kept a ≠ true := fun keeps => by
        rw [if_pos keeps] at none
        cases none.2
      rw [if_neg free] at none
      rw [List.filter_cons_of_neg free, ih (by rw [List.filter_append, none.1, none.2, List.append_nil])]

theorem mem {a : α} (delivers : Delivers kept held sent got) (received : a ∈ got) :
    a ∈ held ∨ a ∈ sent := by
  induction delivers with
  | done => cases received
  | pass _ ih =>
      rcases List.mem_cons.mp received with rfl | later
      · exact .inr List.mem_cons_self
      · exact (ih later).imp_right (List.mem_cons_of_mem _)
  | hold _ _ ih =>
      rcases ih received with back | sent
      · rcases List.mem_cons.mp back with rfl | held
        · exact .inr List.mem_cons_self
        · exact .inl held
      · exact .inr (List.mem_cons_of_mem _ sent)
  | release _ ih =>
      rcases List.mem_cons.mp received with rfl | later
      · exact .inl (List.mem_append_right _ List.mem_cons_self)
      · refine (ih later).imp_left fun back => ?_
        rw [List.mem_append] at back ⊢
        exact back.imp_right (List.mem_cons_of_mem _)

theorem refl : ∀ sent : List α, Delivers kept held sent sent
  | [] => .done
  | _ :: sent => .pass (refl sent)

theorem release_last (a : α) : ∀ sent : List α, Delivers kept [a] sent (sent ++ [a])
  | [] =>
      have alone : Delivers kept ([] ++ a :: []) [] [a] := .release .done
      alone
  | _ :: sent => .pass (release_last a sent)

theorem last {k : Nat} {a : α} (at_ : sent[k]? = some a) (free : kept a = false) :
    Delivers kept [] sent (sent.eraseIdx k ++ [a]) := by
  induction sent generalizing k with
  | nil => cases at_
  | cons b sent ih =>
      cases k with
      | zero =>
          obtain rfl : b = a := Option.some.inj at_
          exact .hold free (release_last b sent)
      | succ k => exact .pass (ih at_)

end Delivers

end Delivery

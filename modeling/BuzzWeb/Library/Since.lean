import Mathlib.Data.List.Induction

/-!
# Since

The past operator over finite histories that grow at the end: something happened, and ever since
then something else has been the case.  The one-step law `since_concat` is all that inductions
over runs need; a statement with `Since` in it has no ghost state to carry.
-/

universe u

variable {α : Type u}

/-- `Since started kept history`: some step of the history was a `started` one, and every step
after it was a `kept` one. -/
def Since (started kept : α → Prop) (history : List α) : Prop :=
  ∃ before st after, history = before ++ st :: after ∧ started st ∧ ∀ later ∈ after, kept later

namespace Since

variable {started kept : α → Prop} {history : List α} {st : α}

/-- It starts with a step, or was so before the step and the step keeps it. -/
theorem since_concat :
    Since started kept (history ++ [st]) ↔ started st ∨ (kept st ∧ Since started kept history) := by
  constructor
  · rintro ⟨before, first, after, hsplit, hfirst, hafter⟩
    rcases List.eq_nil_or_concat after with rfl | ⟨rest, last, rfl⟩
    · obtain ⟨-, hsame⟩ := List.append_inj' hsplit rfl
      rw [List.singleton_inj.mp hsame]
      exact Or.inl hfirst
    · have hassoc : before ++ first :: (rest ++ [last]) = (before ++ first :: rest) ++ [last] := by
        simp
      rw [List.concat_eq_append, hassoc] at hsplit
      obtain ⟨hhistory, hsame⟩ := List.append_inj' hsplit rfl
      rw [List.singleton_inj.mp hsame]
      refine Or.inr ⟨hafter last (by simp), before, first, rest, hhistory, hfirst, ?_⟩
      intro later hlater
      exact hafter later (by simp [hlater])
  · rintro (hnow | ⟨hkept, before, first, after, rfl, hfirst, hafter⟩)
    · exact ⟨history, st, [], rfl, hnow, by simp⟩
    · refine ⟨before, first, after ++ [st], by simp, hfirst, ?_⟩
      intro later hlater
      rcases List.mem_append.mp hlater with hold | hlast
      · exact hafter later hold
      · rw [List.mem_singleton.mp hlast]
        exact hkept

theorem not_since_nil : ¬ Since started kept [] := by
  rintro ⟨before, first, after, hsplit, -, -⟩
  simp at hsplit

theorem now (hstarted : started st) : Since started kept (history ++ [st]) :=
  since_concat.mpr (Or.inl hstarted)

theorem still (hsince : Since started kept history) (hkept : kept st) :
    Since started kept (history ++ [st]) :=
  since_concat.mpr (Or.inr ⟨hkept, hsince⟩)

end Since

import Mathlib.Data.List.Basic

/-!
# Logs whose entries are justified by what precedes them

A log grows at its end. `Justified ok l` says of every entry `e` of `l` that `ok before e` holds,
where `before` is the part of the log that precedes this entry; "never after", "only after" and
"at most once" are all of this form. It is decided once, when the entry is written
(`justified_append_singleton_iff`), so it is an invariant of whatever writes the log.
-/

universe u

namespace EventLog

variable {ε : Type u} {ok ok' : List ε → ε → Prop} {l : List ε} {e : ε}

/-- Every entry is justified by the entries before it. -/
def Justified (ok : List ε → ε → Prop) (l : List ε) : Prop :=
  ∀ l₁ e l₂, l = l₁ ++ e :: l₂ → ok l₁ e

theorem justified_nil : Justified ok ([] : List ε) := by
  intro l₁ e l₂ h
  simp at h

/-- **An entry is justified when it is written**, and what was justified stays so. -/
theorem justified_append_singleton_iff : Justified ok (l ++ [e]) ↔ Justified ok l ∧ ok l e := by
  constructor
  · intro h
    refine ⟨fun l₁ x l₂ hl ↦ h l₁ x (l₂ ++ [e]) ?_, h l e [] rfl⟩
    rw [hl, List.append_assoc, List.cons_append]
  · rintro ⟨hl, he⟩ l₁ x l₂ heq
    rcases List.eq_nil_or_concat l₂ with rfl | ⟨l₃, y, rfl⟩
    · obtain ⟨rfl, hx⟩ := List.append_inj' heq rfl
      obtain rfl := List.singleton_inj.1 hx
      exact he
    · have hlast : l ++ [e] = (l₁ ++ x :: l₃) ++ [y] := by simpa using heq
      exact hl l₁ x l₃ (List.append_inj' hlast rfl).1

/-- What was justified, was so at any earlier time. -/
theorem Justified.of_isPrefix {l' : List ε} (h : Justified ok l) (hl : l' <+: l) :
    Justified ok l' := by
  obtain ⟨t, rfl⟩ := hl
  rintro l₁ e l₂ rfl
  exact h l₁ e (l₂ ++ t) (by simp)

end EventLog

import Mathlib.Data.List.Induction

/-!
# What a log leaves standing

A program that keeps something from one operation on to a later one can be told from the log of
its operations: what an operation has made stands as long as no later one ends it
(`Log.Leaves`). Each further operation ends what it ends and makes what it makes
(`Log.leaves_concat`), so an invariant that speaks of a log is kept operation by operation.
-/

namespace CardRules.Log

variable {Op : Type} {made : List Op → Op → Prop} {ends : Op → Bool} {log : List Op} {op : Op}

/-- The log has an operation that has made it, given the operations before that one, and no
operation behind ends it. -/
def Leaves (made : List Op → Op → Prop) (ends : Op → Bool) (log : List Op) : Prop :=
  ∃ before op after, log = before ++ op :: after ∧ made before op ∧ ∀ o ∈ after, ends o = false

theorem leaves_concat :
    Leaves made ends (log ++ [op]) ↔ (Leaves made ends log ∧ ends op = false) ∨ made log op := by
  constructor
  · rintro ⟨before, op', after, hlog, hmade, hafter⟩
    rcases List.eq_nil_or_concat after with rfl | ⟨after, last, rfl⟩
    · obtain ⟨rfl, hop⟩ := List.append_inj' hlog rfl
      cases hop
      exact .inr hmade
    · rw [List.concat_eq_append, ← List.cons_append, ← List.append_assoc] at hlog
      obtain ⟨rfl, hop⟩ := List.append_inj' hlog rfl
      cases hop
      exact .inl ⟨⟨before, op', after, rfl, hmade, fun o ho => hafter o (by simp [ho])⟩,
        hafter op (by simp)⟩
  · rintro (⟨⟨before, op', after, rfl, hmade, hafter⟩, hop⟩ | hmade)
    · refine ⟨before, op', after ++ [op], by simp, hmade, fun o ho => ?_⟩
      rcases List.mem_append.1 ho with ho | ho
      · exact hafter o ho
      · rw [List.mem_singleton.1 ho]
        exact hop
    · exact ⟨log, op, [], rfl, hmade, by simp⟩

end CardRules.Log

import CardRules.Engine.Create
import CardRules.Proofs.Game.Roster

/-!
# Marks

An engine that takes in a game goes through its abilities and hands out one mark after the other to
those that have none (`Marking.HandsOut`). So the marks that a game gives stay, and the others are
fresh (`marks_install`).
-/

namespace CardRules

namespace Marking

variable {α β : Type} {before given : List (Option Nat)}

/-- Of the marks of what the step gives some are from before, and the others are handed out one
after the other. -/
def HandsOut (before : List (Option Nat)) (marks : α → List (Option Nat)) (m : Marking α) : Prop :=
  ∀ n, ∃ k, (m n).2 = n + k ∧ (marks (m n).1).Perm (before ++ (List.range' n k).map some)

theorem HandsOut.perm {marks : α → List (Option Nat)} {m : Marking α}
    (h : HandsOut before marks m) (hp : before.Perm given) : HandsOut given marks m := by
  intro n
  obtain ⟨k, hk, hmarks⟩ := h n
  exact ⟨k, hk, hmarks.trans (hp.append_right _)⟩

/-- The marks of the abilities of a card. -/
def ofCard (c : Card) : List (Option Nat) := c.face.abilities.map (·.mark)

end Marking

namespace Engine

variable {σ : Type} {g : Game}

/-- Every ability in the game has a mark. -/
def Marked (g : Game) : Prop := ∀ a ∈ abilities g, a.mark.isSome

end Engine

end CardRules

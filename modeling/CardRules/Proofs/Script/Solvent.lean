import CardRules.Proofs.Cost.Solvent
import CardRules.Proofs.Script.Routine

/-!
# Scripts that charge nothing

A script step is `ScriptM.Solvent` when it never complains of an unpaid cost, whatever it is run
on. The helpers of scripts give up in their own words or pass on what a change of the game
complains of, so all of them are solvent, and with them the routines.
-/

namespace CardRules

namespace ScriptM

variable {α β : Type} {x : ScriptM α} {f : α → ScriptM β}

/-- Wherever it runs, it fails for no unpaid cost. -/
def Solvent (x : ScriptM α) : Prop := ∀ ctx s, CardRules.Solvent (x.runIn ctx s).1

theorem solvent_pure (a : α) : Solvent (pure a) := fun _ _ => trivial

protected theorem solvent_bind (hx : Solvent x) (hf : ∀ a, Solvent (f a)) :
    Solvent (x >>= f) := by
  intro ctx s
  rw [runIn_bind]
  have hfirst := hx ctx s
  split <;> rename_i hrun
  · exact hf _ ctx _
  · rwa [hrun] at hfirst

theorem solvent_read : Solvent (read : ScriptM ScriptContext) := fun _ _ => trivial

theorem solvent_game : Solvent game := fun _ _ => trivial

theorem solvent_change {step : Game → Except Fault Game} (hs : ∀ g, CardRules.Solvent (step g)) :
    Solvent (change step) := by
  intro ctx s
  rw [runIn_change]
  have hstep := hs s.game
  split <;> rename_i hg
  · trivial
  · rwa [hg] at hstep

theorem inherited_solvent : Inherited True @Solvent where
  pure := solvent_pure
  bind := ScriptM.solvent_bind
  ask _ hf := ScriptM.solvent_bind solvent_read hf
  throw _ _ _ _ := rfl
  game := solvent_game
  side p := by
    refine ScriptM.solvent_bind solvent_game fun g => ?_
    have hside := Game.solvent_side (g := g) (p := p)
    split <;> rename_i hg
    · exact solvent_pure _
    · rw [hg] at hside
      exact fun _ _ => hside
  move _ _ := solvent_change fun _ => Game.solvent_moveCard
  modify _ _ := solvent_change fun _ => Game.solvent_updateCard
  turn _ _ _ := solvent_change fun _ => Game.solvent_updateCard

end ScriptM

namespace ScriptBook

/-- Every script of the book is solvent. -/
def Solvent (b : ScriptBook) : Prop := ∀ e ∈ b.entries, ScriptM.Solvent e.2

theorem stock_solvent : Solvent stock :=
  fun e he => ScriptM.inherited_solvent.routine (stock_routine e he)

theorem Solvent.execute {b : ScriptBook} (hb : b.Solvent) (id : String) (ctx : ScriptContext)
    (s : ScriptState) : CardRules.Solvent (b.execute id ctx s).1 := by
  unfold ScriptBook.execute find
  cases hl : b.entries.lookup id with
  | none => rfl
  | some script => exact hb _ (mem_of_lookup hl) _ s

end ScriptBook

end CardRules

import CardRules.Proofs.Engine.Stages
import CardRules.Proofs.Hosted

/-!
# What an accepted activation comes to

An activation that nothing speaks against is `granted`: it is settled like an effect from the
stack, and its ending decides the answer and the reports (`activate_granted`). A complaint of an
unpaid cost makes it a refusal, which reports nothing; after any other failure the activation is
answered, and the failure is reported.
-/

namespace CardRules

namespace Ending

/-- What has gone wrong, if something has. -/
def fault? : Ending → Option Fault
  | unpaid f | failed f => some f
  | skipped _ | ran _ => none

/-- Endings that an activation takes for a refusal. -/
def isRefusal (ending : Ending) : Bool := ending.fault?.any Fault.isUnpaid

def hasRun : Ending → Bool
  | ran _ => true
  | _ => false

/-- What an accepted activation answers. -/
def answer (w : Wish) (ending : Ending) : Except Fault Bool :=
  if ending.isRefusal then .error (Obstacle.refusal w .cannotPayCost) else .ok ending.hasRun

/-- What is reported on an accepted activation; a refusal reports nothing. -/
def replies (asked : Invocation) (before : Nat) (g : Game) (ending : Ending) : List Report :=
  if ending.isRefusal then [] else ending.reports asked before g

theorem filter_isConclusive_replies {asked : Invocation} {before : Nat} {g : Game}
    {ending : Ending} : (ending.replies asked before g).filter Report.isConclusive =
      if ending.isRefusal then [] else [ending.conclusion asked] := by
  unfold replies
  split
  · rfl
  · exact filter_isConclusive_reports

end Ending

namespace Engine

variable {σ : Type} {host : Host σ} {e e' e₁ : Engine σ} {i : Invocation} {w : Wish}

/-! ## Accepted activations -/

theorem resolveAccepted_eq (hh : host.Only Reaction.LeavesGame) :
    resolveAccepted host w i e = ((settle i e).1.answer w, (settle i e).2.tellAll host
      ((settle i e).1.replies i e.game.revision (settle i e).2.game)) := by
  unfold resolveAccepted
  rw [resolveInvocation_eq hh]
  cases (settle i e).1 with
  | skipped j | ran j => rfl
  | unpaid f | failed f => cases f <;> rfl

/-- The invocation that a granted wish asks for, and the engine once nothing speaks against it. -/
def granted (w : Wish) (e : Engine σ) : Option (Invocation × Engine σ) :=
  match e.find w with
  | .ok (.ok (c, a)) =>
    match obstacle w c a e with
    | (.ok none, e) => some (wished w c a, e)
    | _ => none
  | _ => none

theorem activate_of_granted (host : Host σ) {w : Wish} {e₁ : Engine σ}
    (h : granted w e = some (i, e₁)) : Noted e e₁ ∧
      activate host w e = resolveAccepted host w i (e₁.tell host (.activated w.cardId i)) := by
  unfold granted at h
  unfold activate
  split at h
  · rename_i c a hfind
    have ho := noted_obstacle (e := e) (w := w) (c := c) (a := a)
    rw [hfind]
    dsimp only
    split at h
    · rename_i e₂ hrun
      rw [hrun] at ho ⊢
      cases h
      exact ⟨ho, rfl⟩
    · cases h
  · cases h

theorem noted_of_not_granted (host : Host σ) {w : Wish} (h : granted w e = none) :
    Noted e (activate host w e).2 := by
  unfold granted at h
  unfold activate
  split
  · exact .refl e
  · exact .refl e
  · rename_i c a hfind
    have ho := noted_obstacle (e := e) (w := w) (c := c) (a := a)
    rw [hfind] at h
    dsimp only at h
    split <;> rename_i hrun
    · rwa [hrun] at ho
    · rwa [hrun] at ho
    · rw [hrun] at h
      cases h

/-- An activation that nothing speaks against settles what was asked for. The ending decides the
answer and all that is reported afterwards, apart from what listeners bring about. -/
theorem activate_granted (hh : host.Only Reaction.LeavesGame)
    (hg : granted w e = some (i, e₁)) :
    (activate host w e).1 = (settle i e₁).1.answer w ∧
    (activate host w e).2.core = (settle i e₁).2.core ∧
    ∃ all, Publishes e all (activate host w e).2 ∧
      ∀ p : Report → Bool, (∀ r, r.isAside → p r = false) → p (.activated w.cardId i) = false →
        all.filter p = ((settle i e₁).1.replies i e₁.game.revision
          (settle i e₁).2.game).filter p := by
  obtain ⟨hnoted, hactivate⟩ := activate_of_granted host hg
  rw [hactivate]
  obtain ⟨asides, htold, hasides⟩ := tells_tell (e := e₁) host (.activated w.cardId i)
  have hcore := core_tell (e := e₁) (r := .activated w.cardId i) hh
  generalize e₁.tell host (.activated w.cardId i) = e₂ at htold hcore
  rw [resolveAccepted_eq hh]
  dsimp only
  obtain ⟨hending, hsettled⟩ := settle_congr (i := i) hcore
  refine ⟨by rw [hending], by rw [core_tellAll hh, hsettled], ?_⟩
  obtain ⟨all, hpub, hfilter⟩ := publishes_tellAll (e := (settle i e₂).2) host
    ((settle i e₂).1.replies i e₂.game.revision (settle i e₂).2.game)
  have hstart : Publishes e [] e₁ := .of_bus hnoted.bus
  have hquiet : Publishes e₂ [] (settle i e₂).2 := .of_bus bus_settle
  refine ⟨_, hstart.trans (htold.trans (hquiet.trans hpub)), fun p hp hactivated => ?_⟩
  rw [List.nil_append, List.nil_append, List.cons_append,
    List.filter_cons_of_neg (by simp [hactivated]), List.filter_append,
    Report.filter_asides hp hasides, List.nil_append, hfilter p hp, hending,
    game_of_core hcore, game_of_core hsettled]

/-- The conclusive reports on an activation that nothing speaks against. -/
theorem publishes_granted (hh : host.Only Reaction.LeavesGame)
    (hg : granted w e = some (i, e₁)) :
    ∃ all, Publishes e all (activate host w e).2 ∧ all.filter Report.isConclusive =
      if (settle i e₁).1.isRefusal then [] else [(settle i e₁).1.conclusion i] := by
  obtain ⟨-, -, all, hpub, hfilter⟩ := activate_granted hh hg
  refine ⟨all, hpub, ?_⟩
  rw [hfilter _ Report.isConclusive_of_isAside rfl, Ending.filter_isConclusive_replies]

end Engine

end CardRules

import Mathlib
import CardRules.Proofs.Engine.Acceptance

/-!
# When a change is announced

Resolving an effect may move the game twice, when the cost is paid and when the body has run. A
change is `Announced` when one report tells it, with the game as it then is. It is announced
unless a stage fails after the payment has moved the game (`Unannounced`): then the game has
changed and no report says so.
-/

namespace CardRules.Engine

variable {σ : Type} {host : Host σ} {e e' : Engine σ} {i : Invocation} {all : List Report}

/-- Among the reports there is one about a change of the game, with the new game, if the game
has changed, and none if it is the same. -/
def Announced (e e' : Engine σ) (all : List Report) : Prop :=
  (e'.game.revision = e.game.revision → all.filter Report.isChange = []) ∧
    (e'.game.revision ≠ e.game.revision → ∃ id, all.filter Report.isChange = [.changed id e'.game])

/-- The payment moves the game, and a stage after it fails. -/
def Unannounced (i : Invocation) (e : Engine σ) : Prop :=
  (∃ f, (settle i e).1 = .failed f) ∧ (settle i e).2.game.revision ≠ e.game.revision

/-! ## One resolution -/

/-- What the reports on a resolution say about changes of the game. -/
theorem filter_isChange_reports {ending : Ending} {before : Nat} {g : Game} :
    (ending.reports i before g).filter Report.isChange =
      match ending with
      | .unpaid _ | .failed _ => []
      | .skipped j | .ran j => Ending.changes before j.ability.id g := by
  have hchanges : ∀ id, (Ending.changes before id g).filter Report.isChange =
      Ending.changes before id g := fun id => by
    unfold Ending.changes
    split <;> rfl
  cases ending with
  | unpaid | failed => rfl
  | skipped j =>
    rw [Ending.reports, List.filter_cons_of_neg (by simp [Ending.conclusion, Report.isChange])]
    exact hchanges _
  | ran j =>
    rw [Ending.reports, List.filter_append, hchanges]
    simp [Ending.conclusion, Report.isChange]

theorem filter_isChange_replies {ending : Ending} {before : Nat} {g : Game} :
    (ending.replies i before g).filter Report.isChange =
      (ending.reports i before g).filter Report.isChange := by
  unfold Ending.replies
  split
  · rename_i hrefusal
    rw [filter_isChange_reports]
    cases ending with
    | unpaid | failed => rfl
    | skipped | ran => cases hrefusal
  · rfl

/-- The reports announce the change unless a stage fails after the payment. -/
theorem announced_of_reports (hgame : e'.game = (settle i e).2.game)
    (hall : all.filter Report.isChange = ((settle i e).1.reports i e.game.revision
      (settle i e).2.game).filter Report.isChange) :
    (¬Unannounced i e → Announced e e' all) ∧
      (Unannounced i e → all.filter Report.isChange = []) := by
  rw [filter_isChange_reports] at hall
  refine ⟨fun hu => ?_, fun ⟨⟨f, hf⟩, _⟩ => by rw [hall, hf]⟩
  by_cases hrev : (settle i e).2.game.revision = e.game.revision
  · have hnone : all.filter Report.isChange = [] := by
      rw [hall]
      split <;> simp [Ending.changes, hrev]
    exact ⟨fun _ => hnone, fun h => absurd (hgame ▸ hrev) h⟩
  · refine ⟨fun h => absurd (hgame ▸ h) hrev, fun _ => ?_⟩
    cases hend : (settle i e).1 with
    | unpaid f => exact absurd (congrArg _ (game_of_unpaid hend)) hrev
    | failed f => exact absurd ⟨⟨f, hend⟩, hrev⟩ hu
    | skipped j | ran j =>
      refine ⟨j.ability.id, ?_⟩
      rw [hall, hend, hgame]
      simp [Ending.changes, hrev]

theorem isChange_of_isAside : ∀ r : Report, r.isAside → r.isChange = false := by
  intro r hr
  cases r <;> simp_all [Report.isAside, Report.isChange]

theorem process_announces (hh : host.Only Reaction.LeavesGame) (i : Invocation) (e : Engine σ) :
    ∃ all, Publishes e all (process host i e) ∧
      (¬Unannounced i e → Announced e (process host i e) all) ∧
      (Unannounced i e → all.filter Report.isChange = []) := by
  rw [process_eq hh]
  obtain ⟨all, hpub, hfilter⟩ := publishes_tellAll (e := (settle i e).2) host
    ((settle i e).1.reports i e.game.revision (settle i e).2.game)
  have hbus : Publishes e [] (settle i e).2 := .of_bus bus_settle
  exact ⟨all, hbus.trans hpub,
    announced_of_reports (game_tellAll hh) (hfilter _ isChange_of_isAside)⟩

/-! ## One activation -/

theorem announced_congr {e₁ : Engine σ} (h : e₁.game = e.game) :
    Announced e₁ e' all ↔ Announced e e' all := by
  unfold Announced
  rw [h]

theorem activate_announces (hh : host.Only Reaction.LeavesGame) (w : Wish) (e : Engine σ) :
    ∃ all, Publishes e all (activate host w e).2 ∧
      ((¬∃ i e₁, granted w e = some (i, e₁) ∧ Unannounced i e₁) →
        Announced e (activate host w e).2 all) ∧
      ((∃ i e₁, granted w e = some (i, e₁) ∧ Unannounced i e₁) →
        all.filter Report.isChange = []) := by
  cases hg : granted w e with
  | none =>
    have hu := noted_of_not_granted host hg
    refine ⟨[], .of_bus hu.bus, fun _ => ⟨fun _ => rfl, fun h => ?_⟩, fun _ => rfl⟩
    exact absurd (congrArg _ hu.game) h
  | some found =>
    obtain ⟨i, e₁⟩ := found
    have hnoted := (activate_of_granted host hg).1
    obtain ⟨-, hcore, all, hpub, hfilter⟩ := activate_granted hh hg
    have hall := hfilter Report.isChange isChange_of_isAside rfl
    rw [filter_isChange_replies] at hall
    have hannounced := announced_of_reports (game_of_core hcore) hall
    rw [announced_congr hnoted.game] at hannounced
    have hiff : (∃ j e₂, some (i, e₁) = some (j, e₂) ∧ Unannounced j e₂) ↔ Unannounced i e₁ := by
      constructor
      · rintro ⟨j, e₂, heq, h⟩
        cases heq
        exact h
      · exact fun h => ⟨i, e₁, rfl, h⟩
    rw [hiff]
    exact ⟨all, hpub, hannounced⟩

/-- Whether an effect is taken from the stack or activated: a change of the game is announced
once, with the new game, and nothing is announced where nothing has changed; but a change made
by a payment is never announced if a stage after it fails. -/
theorem changes_announced (hh : host.Only Reaction.LeavesGame) (e : Engine σ) :
    (∀ i, ∃ all, Publishes e all (process host i e) ∧
      (¬Unannounced i e → Announced e (process host i e) all) ∧
      (Unannounced i e → all.filter Report.isChange = [])) ∧
    ∀ w, ∃ all, Publishes e all (activate host w e).2 ∧
      ((¬∃ i e₁, granted w e = some (i, e₁) ∧ Unannounced i e₁) →
        Announced e (activate host w e).2 all) ∧
      ((∃ i e₁, granted w e = some (i, e₁) ∧ Unannounced i e₁) →
        all.filter Report.isChange = []) :=
  ⟨fun i => process_announces hh i e, fun w => activate_announces hh w e⟩

theorem changes_announced_opening :
    ∃ all, Publishes (standard Game.opening) all
        (process .silent (paidDraw "draw_1") (standard Game.opening)) ∧
      Announced (standard Game.opening)
        (process .silent (paidDraw "draw_1") (standard Game.opening)) all := by
  obtain ⟨all, hpub, hannounced, -⟩ := (changes_announced (Host.only_silent _)
    (standard Game.opening)).1 (paidDraw "draw_1")
  refine ⟨all, hpub, hannounced ?_⟩
  rintro ⟨⟨f, hf⟩, -⟩
  have hran : ((settle (paidDraw "draw_1") (standard Game.opening)).1.outcome).isOk = true := by
    cbv
  rw [hf] at hran
  cases hran

/-- A DON!! is rested for cards that the script fails to draw: the game has changed, and
whatever was published, no change was announced. -/
theorem overdrawn_not_announced :
    ¬∃ all, Publishes (standard Game.opening) all
        (process .silent (paidDraw "draw_3") (standard Game.opening)) ∧
      Announced (standard Game.opening)
        (process .silent (paidDraw "draw_3") (standard Game.opening)) all := by
  rintro ⟨all, hpub, hannounced⟩
  have hmoved :
      (process .silent (paidDraw "draw_3") (standard Game.opening)).game.revision = 1 := by
    cbv
  have hbus : (process .silent (paidDraw "draw_3") (standard Game.opening)).bus.map
      (fun b => (b.published, b.history.map fun n => n.payload.isChange)) =
        some (1, [false]) := by
    cbv
  obtain ⟨id, hall⟩ := hannounced.2 (by rw [hmoved]; decide)
  unfold Publishes at hpub
  generalize (process .silent (paidDraw "draw_3") (standard Game.opening)).bus = b at hpub hbus
  cases hpub with
  | some hpub =>
    rename_i b
    obtain ⟨hcount, hhistory⟩ := Prod.mk.inj (Option.some.inj hbus)
    have hlength : all.length = 1 := by
      have hc := hpub.count
      rw [hcount] at hc
      simpa using hc.symm
    have hsame := hpub.eq_append fun room hroom => by
      cases hroom
      rw [hlength]
      decide
    have hnone : all.map Report.isChange = [false] := by
      have hmap := congrArg (List.map Report.isChange) hsame
      rw [List.map_map] at hmap
      exact hmap.symm.trans hhistory
    have hmem : Report.changed id (process .silent (paidDraw "draw_3")
        (standard Game.opening)).game ∈ all := List.mem_of_mem_filter (hall ▸ List.mem_cons_self)
    have hfalse := hnone ▸ List.mem_map_of_mem (f := Report.isChange) hmem
    simp [Report.isChange] at hfalse

end CardRules.Engine

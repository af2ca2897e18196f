import Mathlib
import CardRules.Proofs.Engine.Acceptance

/-!
# What a refusal leaves behind

An activation is refused before it pays, and then nothing has changed; or a complaint of an unpaid
cost makes it a refusal afterwards. Such a complaint is known by its kind, whatever stage it comes
from. So a refusal leaves the game as it was unless a stage after the payment asks for more than
there is (`Overcharged`): then what was paid is gone, and no report concludes the activation.
-/

namespace CardRules.Engine

variable {σ : Type} {host : Host σ} {e : Engine σ} {i : Invocation} {w : Wish} {f : Fault}

/-- What goes wrong after the payment of an activation, if something does. -/
def lateFault (w : Wish) (e : Engine σ) : Option Fault :=
  (granted w e).bind fun (i, e₁) =>
    match (settle i e₁).1 with
    | .failed f => some f
    | _ => none

/-- A stage after the payment complains of an unpaid cost. -/
def Overcharged (w : Wish) (e : Engine σ) : Prop := (lateFault w e).any Fault.isUnpaid

theorem lateFault_eq_some_iff : lateFault w e = some f ↔
    ∃ i e₁, granted w e = some (i, e₁) ∧ (settle i e₁).1 = .failed f := by
  unfold lateFault
  rw [Option.bind_eq_some_iff]
  constructor
  · rintro ⟨⟨i, e₁⟩, hg, hf⟩
    dsimp only at hf
    split at hf
    · rename_i f hend
      cases hf
      exact ⟨i, e₁, hg, hend⟩
    · cases hf
  · rintro ⟨i, e₁, hg, hend⟩
    refine ⟨(i, e₁), hg, ?_⟩
    dsimp only
    rw [hend]

theorem game_of_error (hh : host.Only Reaction.LeavesGame) (ho : ¬Overcharged w e)
    (hf : (activate host w e).1 = .error f) : (activate host w e).2.game = e.game := by
  cases hg : granted w e with
  | none => exact (noted_of_not_granted host hg).game
  | some found =>
    obtain ⟨i, e₁⟩ := found
    obtain ⟨hanswer, hcore, -⟩ := activate_granted hh hg
    have hnoted := (activate_of_granted host hg).1
    rw [game_of_core hcore, ← hnoted.game]
    rw [hanswer] at hf
    cases hend : (settle i e₁).1 with
    | unpaid f => exact game_of_unpaid hend
    | skipped j | ran j =>
      rw [hend] at hf
      cases hf
    | failed f =>
      have hlate : lateFault w e = some f := lateFault_eq_some_iff.2 ⟨i, e₁, hg, hend⟩
      have hpaid : f.isUnpaid = false := by simpa [Overcharged, hlate] using ho
      have hanswered : (Ending.failed f).isRefusal = false := hpaid
      rw [hend, Ending.answer, hanswered] at hf
      cases hf

/-- An activation that gives no answer has not changed the game, unless a stage after the payment
complains of an unpaid cost. Any other failure after the payment is reported, and the activation
answers that its body has not run; but such a complaint is taken for a refusal, without a report,
and what was paid stays paid. -/
theorem refusal_leaves_game (hh : host.Only Reaction.LeavesGame) (w : Wish) (e : Engine σ) :
    (∀ f, (activate host w e).1 = .error f → ¬Overcharged w e →
      (activate host w e).2.game = e.game) ∧
    ∀ f, lateFault w e = some f → ∃ i e₁ paid all, granted w e = some (i, e₁) ∧
      payCost i e₁ = (.ok (), paid) ∧ (activate host w e).2.game = paid.game ∧
      Publishes e all (activate host w e).2 ∧
      (f.isUnpaid = false → (activate host w e).1 = .ok false ∧
        all.filter Report.isConclusive = [.failed i f]) ∧
      (f.isUnpaid = true → (activate host w e).1 = .error (Obstacle.refusal w .cannotPayCost) ∧
        all.filter Report.isConclusive = []) := by
  refine ⟨fun f hf ho => game_of_error hh ho hf, fun f hlate => ?_⟩
  obtain ⟨i, e₁, hg, hend⟩ := lateFault_eq_some_iff.1 hlate
  obtain ⟨hanswer, hcore, -⟩ := activate_granted hh hg
  obtain ⟨all, hpub, hall⟩ := publishes_granted hh hg
  obtain ⟨paid, hpay, hgame⟩ := payCost_of_failed hend
  have hrefusal : (settle i e₁).1.isRefusal = f.isUnpaid := by rw [hend]; rfl
  refine ⟨i, e₁, paid, all, hg, hpay, (game_of_core hcore).trans hgame, hpub, ?_, ?_⟩
  · intro hu
    rw [hanswer, Ending.answer, hall, hrefusal, hu, hend]
    exact ⟨rfl, rfl⟩
  · intro hu
    rw [hanswer, Ending.answer, hall, hrefusal, hu]
    exact ⟨rfl, rfl⟩

/-- More cards are to be drawn than there are: the failure is reported, and the activation is
answered. -/
theorem refusal_leaves_game_overdrawn :
    (activate .silent drawing (wielding (paidDraw "draw_3").ability)).1 = .ok false ∧
    ∃ i f all, Publishes (wielding (paidDraw "draw_3").ability) all
        (activate .silent drawing (wielding (paidDraw "draw_3").ability)).2 ∧
      all.filter Report.isConclusive = [.failed i f] := by
  have hlate : (lateFault drawing (wielding (paidDraw "draw_3").ability)).map Fault.isUnpaid =
      some false := by
    cbv
  obtain ⟨f, hf, hpaid⟩ := Option.map_eq_some_iff.1 hlate
  obtain ⟨i, -, -, all, -, -, -, hpub, hanswered, -⟩ :=
    (refusal_leaves_game (Host.only_silent _) drawing (wielding (paidDraw "draw_3").ability)).2 f hf
  exact ⟨(hanswered hpaid).1, i, f, all, hpub, (hanswered hpaid).2⟩

/-- A script that charges its controller five more DON!!. -/
def surcharge : Script := do
  let ctx ← read
  ScriptM.change fun g => (Cost.restDon 5).pay ctx.controller g

/-- The character's ability charges more than there is, after its own cost. -/
def surcharged : Engine Unit :=
  { wielding (paidDraw "surcharge").ability with scripts := ⟨[("surcharge", surcharge)]⟩ }

/-- The activation is refused, but its own cost is gone. -/
theorem surcharged_refused_after_payment :
    ¬((activate .silent drawing surcharged).1 = .error (Obstacle.refusal drawing .cannotPayCost) →
      (activate .silent drawing surcharged).2.game = surcharged.game) := by
  intro hkept
  have hmoved : (activate .silent drawing surcharged).2.game.revision = 1 := by cbv
  have hrefused : (activate .silent drawing surcharged).1 =
      .error (Obstacle.refusal drawing .cannotPayCost) := by
    cbv
  rw [hkept hrefused] at hmoved
  cases hmoved

end CardRules.Engine

import CardRules.Proofs.Engine.Legality

/-!
# Paid and skipped

The condition of an ability is asked twice: before the activation is accepted, and again in the
game that the payment leaves. Only the second verdict decides whether the body runs
(`concludes_ran`, `concludes_skipped`). So a payment is forfeited when it takes away what its own
condition asks for, but never where there is nothing to pay or no condition
(`conditionHolds_paid`).
-/

namespace CardRules.Engine

variable {σ : Type} {host : Host σ} {e e' e₁ paid ready : Engine σ} {i : Invocation} {w : Wish}
  {f : Fault}

/-- The activation is answered and leaves a game, and one report concludes it. -/
def Concludes (host : Host σ) (w : Wish) (e : Engine σ) (ran : Bool) (g : Game) (r : Report) :
    Prop :=
  (activate host w e).1 = .ok ran ∧ (activate host w e).2.game = g ∧
    ∃ all, Publishes e all (activate host w e).2 ∧ all.filter Report.isConclusive = [r]

theorem concludes_of_settle (hh : host.Only Reaction.LeavesGame)
    (hg : granted w e = some (i, e₁)) {ending : Ending} (hs : settle i e₁ = (ending, e'))
    (hend : ending.isRefusal = false) :
    Concludes host w e ending.hasRun e'.game (ending.conclusion i) := by
  obtain ⟨hanswer, hcore, -⟩ := activate_granted hh hg
  obtain ⟨all, hpub, hall⟩ := publishes_granted hh hg
  rw [hs] at hcore
  rw [hs, Ending.answer, hend] at hanswer
  rw [hs, hend] at hall
  exact ⟨hanswer, game_of_core hcore, all, hpub, hall⟩

/-! ## After the payment -/

section paid

variable (hh : host.Only Reaction.LeavesGame) (hg : granted w e = some (i, e₁))
  (hb : paid.KeepsBodies) (hpay : payCost i e₁ = (.ok (), paid))

include hh hg hb hpay

theorem concludes_skipped (hcond : conditionHolds i paid = (.ok false, e')) :
    Concludes host w e false paid.game (.skipped i) := by
  have hs : settle i e₁ = (.skipped i, e') := by
    simp only [settle, hpay, replaceBody_of_keepsBodies hb, hcond]
  rw [← (noted_of_conditionHolds hcond).game]
  exact concludes_of_settle hh hg hs rfl

theorem concludes_condition_failed (hcond : conditionHolds i paid = (.error f, e'))
    (hf : f.isUnpaid = false) : Concludes host w e false paid.game (.failed i f) := by
  have hs : settle i e₁ = (.failed f, e') := by
    simp only [settle, hpay, replaceBody_of_keepsBodies hb, hcond]
  rw [← (noted_of_conditionHolds hcond).game]
  exact concludes_of_settle hh hg hs hf

theorem concludes_body_failed (hcond : conditionHolds i paid = (.ok true, ready))
    (hrun : runBody i ready = (.error f, e')) (hf : f.isUnpaid = false) :
    Concludes host w e false paid.game (.failed i f) := by
  have hs : settle i e₁ = (.failed f, e') := by
    simp only [settle, hpay, replaceBody_of_keepsBodies hb, hcond, hrun]
  have hbody : Noted ready e' := by
    have hnoted := noted_runBody (e := ready) (i := i)
    rwa [hrun] at hnoted
  rw [← (noted_of_conditionHolds hcond).game, ← hbody.game]
  exact concludes_of_settle hh hg hs hf

theorem concludes_ran {g : Game} (hcond : conditionHolds i paid = (.ok true, ready))
    (hrun : runBody i ready = (.ok g, e')) :
    Concludes host w e true g (.resolved { i with resolved := true }) := by
  have hs : settle i e₁ = (.ran i, { e' with game := g }.markUsed i.ability) := by
    simp only [settle, hpay, replaceBody_of_keepsBodies hb, hcond, hrun]
  have hconcludes := concludes_of_settle hh hg hs rfl
  rwa [game_markUsed] at hconcludes

end paid

/-- A payment that fails leaves the game as it was. -/
theorem game_of_payCost_error (hh : host.Only Reaction.LeavesGame)
    (hg : granted w e = some (i, e₁)) (hpay : payCost i e₁ = (.error f, paid)) :
    (activate host w e).2.game = e.game := by
  obtain ⟨-, hcore, -⟩ := activate_granted hh hg
  have hs : settle i e₁ = (.unpaid f, paid) := by simp only [settle, hpay]
  rw [game_of_core hcore, hs, ← (activate_of_granted host hg).1.game]
  exact (paid_of_payCost hpay).game_of_error

/-- The first verdict stands where there is nothing to pay or no condition. -/
theorem conditionHolds_paid (hpay : payCost i e₁ = (.ok (), paid))
    (hholds : (conditionHolds i e₁).1 = .ok true)
    (hi : i.ability.cost = none ∨ i.ability.condition = none) :
    (conditionHolds i paid).1 = .ok true := by
  rcases hi with hcost | hcond
  · unfold payCost at hpay
    rw [hcost] at hpay
    cases hpay
    exact hholds
  · unfold conditionHolds
    rw [hcond]

/-- How an activation ends that nothing speaks against. A payment that fails leaves the game as it
was. Once the cost is paid, the condition is asked again: if it holds, the body runs to its end or
is reported to have failed; if it does not, the activation is skipped, and what was paid stays
paid. The second verdict can differ from the first only where there are a cost and a condition. -/
theorem activate_after_payment (hh : host.Only Reaction.LeavesGame) (hb : e.KeepsBodies)
    (hp : ∀ p view, (e.answer.probe p view).Steady) (hcan : (canActivate w e).1 = .ok true) :
    ∃ i e₁, granted w e = some (i, e₁) ∧ (conditionHolds i e₁).1 = .ok true ∧
      (∀ f unpaid, payCost i e₁ = (.error f, unpaid) → (activate host w e).2.game = e.game) ∧
      ∀ paid, payCost i e₁ = (.ok (), paid) →
        (∀ ready, conditionHolds i paid = (.ok true, ready) →
          (∀ g e', runBody i ready = (.ok g, e') →
            Concludes host w e true g (.resolved { i with resolved := true })) ∧
          ∀ f e', runBody i ready = (.error f, e') → f.isUnpaid = false →
            Concludes host w e false paid.game (.failed i f)) ∧
        (∀ e', conditionHolds i paid = (.ok false, e') →
          Concludes host w e false paid.game (.skipped i)) ∧
        (∀ f e', conditionHolds i paid = (.error f, e') → f.isUnpaid = false →
          Concludes host w e false paid.game (.failed i f)) ∧
        (i.ability.cost = none ∨ i.ability.condition = none →
          (conditionHolds i paid).1 = .ok true) := by
  obtain ⟨i, e₀, e₁, hg, hholds, -⟩ := granted_of_canActivate hcan
  have hnoted := (activate_of_granted host hg).1
  have hagain : (conditionHolds i e₁).1 = .ok true := by
    rw [conditionHolds_again hp hnoted, hholds]
  refine ⟨i, e₁, hg, hagain, fun f unpaid => game_of_payCost_error hh hg, fun paid hpay => ?_⟩
  have hplugs := (paid_of_payCost hpay).samePlugs
  have hkept := (hnoted.samePlugs.trans hplugs).keepsBodies hb
  refine ⟨fun ready hcond => ⟨fun g e' => ?_, fun f e' => ?_⟩, fun e' => ?_, fun f e' => ?_, ?_⟩
  · exact concludes_ran hh hg hkept hpay hcond
  · exact concludes_body_failed hh hg hkept hpay hcond
  · exact concludes_skipped hh hg hkept hpay
  · exact concludes_condition_failed hh hg hkept hpay
  · exact conditionHolds_paid hpay hagain

/-- The drawing ability, for players who have so many active DON!!. -/
def drawWith (n : Int) : Ability :=
  let atLeast := Condition.compare (.text "controller.active_don") .gte (.int n)
  { (paidDraw "draw_1").ability with condition := some atLeast }

/-- With one DON!! asked for, one is still there after the payment, and the card is drawn. -/
theorem activate_after_payment_drawing :
    ∃ (i : Invocation) (g : Game), Concludes .silent drawing (wielding (drawWith 1)) true g
      (.resolved { i with resolved := true }) := by
  have hyes : (canActivate drawing (wielding (drawWith 1))).1 = .ok true := by cbv
  have hstages : (granted drawing (wielding (drawWith 1))).map (fun found =>
      let paying := payCost found.1 found.2
      let asking := conditionHolds found.1 paying.2
      (paying.1.isOk, asking.1.toOption, (runBody found.1 asking.2).1.isOk)) =
        some (true, some true, true) := by
    cbv
  obtain ⟨i, e₁, hg, -, -, hpaid⟩ := activate_after_payment (Host.only_silent _)
    (fun r hr => by cases hr) (fun p _ => p.steady_ask) hyes
  rw [hg] at hstages
  rcases hpay : payCost i e₁ with ⟨_ | _, paid⟩
  · simp [hpay, Except.isOk, Except.toBool] at hstages
  · rcases hcond : conditionHolds i paid with ⟨_ | _ | _, ready⟩
    · simp [hpay, hcond, Except.toOption] at hstages
    · simp [hpay, hcond, Except.toOption] at hstages
    · rcases hrun : runBody i ready with ⟨_ | g, e'⟩
      · simp [hpay, hcond, hrun, Except.isOk, Except.toBool] at hstages
      · exact ⟨i, g, ((hpaid paid hpay).1 ready hcond).1 g e' hrun⟩

/-- With two DON!! asked for, the payment takes one of them: the activation is neither carried out
nor reported to have failed, although nothing spoke against it. -/
theorem selfDefeating_forfeited :
    ¬((canActivate drawing (wielding (drawWith 2))).1 = .ok true →
      (activate .silent drawing (wielding (drawWith 2))).1 = .ok true ∨
        ∃ b ∈ (activate .silent drawing (wielding (drawWith 2))).2.bus,
          ∃ n ∈ b.history, n.kind = .failed) := by
  intro hruns
  have hyes : (canActivate drawing (wielding (drawWith 2))).1 = .ok true := by cbv
  have hno : (activate .silent drawing (wielding (drawWith 2))).1 = .ok false := by cbv
  have hkinds : (activate .silent drawing (wielding (drawWith 2))).2.bus.map
      (fun b => b.history.map (·.kind)) = some [.activated, .skipped, .changed] := by cbv
  rcases hruns hyes with hran | ⟨b, hb, n, hn, hfailed⟩
  · rw [hno] at hran
    cases hran
  · rw [Option.mem_def.1 hb] at hkinds
    have hkind : n.kind ∈ b.history.map (·.kind) := List.mem_map_of_mem hn
    rw [show b.history.map (·.kind) = _ from Option.some.inj hkinds, hfailed] at hkind
    revert hkind
    decide

end CardRules.Engine

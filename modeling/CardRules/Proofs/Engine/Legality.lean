import Mathlib
import CardRules.Proofs.Engine.Acceptance
import CardRules.Proofs.Script.Solvent

/-!
# Asking before acting

`Engine.canActivate` asks for obstacles, and `Engine.activate` asks again before it acts. On one
engine both find the same; on engines that differ in their journals only they do if the host is
`Steady` (`canActivate_again`). What follows is foreseen as well: what can be paid is paid
(`solvent_payCost`), and if the host is `Solvent` no later stage complains of an unpaid cost
(`settle_isRefusal`), so a wish that can be granted is never refused.
-/

namespace CardRules

theorem Probe.steady_ask (p : Probe) : p.ask.Steady := by
  refine Hosted.steady_bind (fun _ _ => rfl) fun _ => ?_
  split
  · exact Hosted.steady_pure _
  · exact Hosted.steady_throw _

theorem Probe.solvent_ask (p : Probe) : p.ask.Solvent := by
  refine Hosted.solvent_bind (fun _ => trivial) fun _ => ?_
  split
  · exact fun _ => trivial
  · exact fun _ => rfl

namespace Engine

variable {σ : Type} {host : Host σ} {e e' e₁ : Engine σ} {i : Invocation} {w : Wish} {f : Fault}

/-! ## Reliable hosts -/

/-- Probes and functions that replace costs answer alike each time. -/
structure Steady (e : Engine σ) : Prop where
  probes : ∀ p view, (e.answer.probe p view).Steady
  costs : ∀ r ∈ e.replacements.entries, ∀ replace ∈ r.replaceCost, ∀ c ctx, (replace c ctx).Steady

/-- Functions that replace costs answer alike each time. -/
def SteadyCosts (e : Engine σ) : Prop :=
  ∀ r ∈ e.replacements.entries, ∀ replace ∈ r.replaceCost, ∀ c ctx, (replace c ctx).Steady

/-- No replacement replaces bodies. -/
def KeepsBodies (e : Engine σ) : Prop := ∀ r ∈ e.replacements.entries, r.replaceBody = none

/-- Nothing that is plugged in complains of an unpaid cost. -/
structure Solvent (e : Engine σ) : Prop where
  probes : ∀ p view, (e.answer.probe p view).Solvent
  resolvers : e.resolvers.Solvent
  scripts : e.scripts.Solvent

namespace SamePlugs

theorem steady (h : SamePlugs e e') (he : e.Steady) : e'.Steady :=
  ⟨h.answer ▸ he.probes, h.replacements ▸ he.costs⟩

theorem keepsBodies (h : SamePlugs e e') (he : e.KeepsBodies) : e'.KeepsBodies := by
  unfold KeepsBodies
  rwa [h.replacements]

theorem solvent (h : SamePlugs e e') (he : e.Solvent) : e'.Solvent :=
  ⟨h.answer ▸ he.probes, h.resolvers ▸ he.resolvers, h.scripts ▸ he.scripts⟩

end SamePlugs

/-! ## Asking again -/

theorem noted_of_conditionHolds {verdict : Except Fault Bool}
    (h : conditionHolds i e = (verdict, e')) : Noted e e' := by
  have hnoted := noted_conditionHolds (e := e) (i := i)
  rwa [h] at hnoted

theorem noted_of_affordable {verdict : Except Fault Bool}
    (h : affordable i e = (verdict, e')) : Noted e e' := by
  have hnoted := noted_affordable (e := e) (i := i)
  rwa [h] at hnoted

theorem conditionHolds_again (hp : ∀ p view, (e.answer.probe p view).Steady) (h : Noted e e') :
    (conditionHolds i e').1 = (conditionHolds i e).1 := by
  obtain ⟨journal, rfl⟩ := h
  unfold conditionHolds
  cases i.ability.condition with
  | none => rfl
  | some c => exact Condition.steady_eval (fun p => hp p _) c _ _

/-- The replaced cost decides. -/
theorem affordable_fst : (affordable i e).1 = match i.ability.cost with
    | none => .ok true
    | some c => (e.hosted (e.replacements.applyCost c (e.context i))).1 >>= fun c =>
        c.canPay i.controller e.game := by
  unfold affordable
  cases i.ability.cost with
  | none => rfl
  | some c =>
    have hnoted := noted_hosted (e := e) (e.replacements.applyCost c (e.context i))
    dsimp only
    generalize e.hosted (e.replacements.applyCost c (e.context i)) = done at hnoted ⊢
    obtain ⟨outcome, e'⟩ := done
    cases outcome with
    | error f => rfl
    | ok c => exact congrArg (c.canPay i.controller) hnoted.game

theorem affordable_again (hc : e.SteadyCosts) (h : Noted e e') :
    (affordable i e').1 = (affordable i e).1 := by
  obtain ⟨journal, rfl⟩ := h
  rw [affordable_fst, affordable_fst]
  cases i.ability.cost with
  | none => rfl
  | some c =>
    have hsteady : (e.replacements.applyCost c (e.context i)).Steady :=
      Replacements.steady_applyCost (fun r hr replace hm c => hc r hr replace hm c _) c
    exact congrArg (· >>= fun c => c.canPay i.controller e.game) (hsteady journal e.journal)

theorem targetObstacle_again {a : Ability} (h : Noted e e') :
    targetObstacle a i e' = targetObstacle a i e := by
  obtain ⟨_, rfl⟩ := h
  rfl

/-- The verdicts of an obstacle's stages, asked on one engine. -/
theorem obstacle_fst (he : e.Steady) {c : Card} {a : Ability} : (obstacle w c a e).1 =
    match staticObstacle c a e with
    | some o => .ok (some o)
    | none => (conditionHolds (wished w c a) e).1 >>= fun holds =>
        if holds then (affordable (wished w c a) e).1 >>= fun payable =>
          if payable then targetObstacle a (wished w c a) e else .ok (some .cannotPayCost)
        else .ok (some .conditionNotMet) := by
  unfold obstacle
  cases staticObstacle c a e with
  | some o => rfl
  | none =>
    have hcond := noted_conditionHolds (e := e) (i := wished w c a)
    dsimp only
    generalize conditionHolds (wished w c a) e = asked at hcond ⊢
    obtain ⟨_ | _ | _, e₁⟩ := asked
    · rfl
    · rfl
    · have hpay := noted_affordable (e := e₁) (i := wished w c a)
      have hagain := affordable_again (i := wished w c a) he.costs hcond
      dsimp only
      rw [← hagain]
      generalize affordable (wished w c a) e₁ = paying at hpay ⊢
      obtain ⟨_ | _ | _, e₂⟩ := paying
      · rfl
      · rfl
      · exact targetObstacle_again (hcond.trans hpay)

theorem obstacle_again (he : e.Steady) (h : Noted e e') {c : Card} {a : Ability} :
    (obstacle w c a e').1 = (obstacle w c a e).1 := by
  rw [obstacle_fst (h.samePlugs.steady he), obstacle_fst he, conditionHolds_again he.probes h,
    affordable_again he.costs h, targetObstacle_again h]
  obtain ⟨_, rfl⟩ := h
  rfl

theorem canActivate_fst : (canActivate w e).1 = e.find w >>= fun found =>
    match found with
    | .error _ => .ok false
    | .ok (c, a) => (obstacle w c a e).1.map (·.isNone) := by
  unfold canActivate
  rcases e.find w with _ | _ | ⟨c, a⟩ <;> rfl

/-- Asking leaves at most entries in the journal. -/
theorem noted_canActivate : Noted e (canActivate w e).2 := by
  unfold canActivate
  split
  · exact .refl e
  · exact .refl e
  · exact noted_obstacle

/-- Asking a steady host again gives the same answer. -/
theorem canActivate_again (he : e.Steady) (h : Noted e e') :
    (canActivate w e').1 = (canActivate w e).1 := by
  have hfind : e'.find w = e.find w := by
    obtain ⟨_, rfl⟩ := h
    rfl
  rw [canActivate_fst, canActivate_fst, hfind]
  congr 1
  funext found
  rcases found with _ | ⟨c, a⟩
  · rfl
  · exact congrArg (Except.map (·.isNone)) (obstacle_again he h)

/-! ## Acting on the answer -/

theorem refused_of_canActivate (host : Host σ) (h : (canActivate w e).1 = .ok false) :
    granted w e = none ∧ ∃ o, (activate host w e).1 = .error (Obstacle.refusal w o) := by
  unfold canActivate at h
  unfold granted activate
  generalize e.find w = found at h ⊢
  rcases found with f | o | ⟨c, a⟩
  · cases h
  · exact ⟨rfl, o, rfl⟩
  · dsimp only at h ⊢
    generalize obstacle w c a e = asked at h ⊢
    rcases asked with ⟨f | _ | o, e₁⟩
    · cases h
    · cases h
    · exact ⟨rfl, o, rfl⟩

theorem failed_of_canActivate (host : Host σ) (h : (canActivate w e).1 = .error f) :
    granted w e = none ∧ (activate host w e).1 = .error f := by
  unfold canActivate at h
  unfold granted activate
  generalize e.find w = found at h ⊢
  rcases found with g | o | ⟨c, a⟩
  · cases h
    exact ⟨rfl, rfl⟩
  · cases h
  · dsimp only at h ⊢
    generalize obstacle w c a e = asked at h ⊢
    rcases asked with ⟨g | _ | o, e₁⟩
    · cases h
      exact ⟨rfl, rfl⟩
    · cases h
    · cases h

theorem asked_of_obstacle {c : Card} {a : Ability} (h : obstacle w c a e = (.ok none, e₁)) :
    ∃ e₀, conditionHolds (wished w c a) e = (.ok true, e₀) ∧
      affordable (wished w c a) e₀ = (.ok true, e₁) ∧
      targetObstacle a (wished w c a) e₁ = .ok none := by
  unfold obstacle at h
  split at h
  · cases h
  · dsimp only at h
    split at h
    · cases h
    · cases h
    · rename_i e₀ hholds
      split at h
      · cases h
      · cases h
      · rename_i hpayable
        obtain ⟨htargets, rfl⟩ := Prod.mk.inj h
        exact ⟨e₀, hholds, hpayable, htargets⟩

/-- A wish is granted when the condition of what it asks for holds and the cost can be paid. -/
theorem granted_of_canActivate (h : (canActivate w e).1 = .ok true) :
    ∃ i e₀ e₁, granted w e = some (i, e₁) ∧ conditionHolds i e = (.ok true, e₀) ∧
      affordable i e₀ = (.ok true, e₁) := by
  unfold canActivate at h
  unfold granted
  generalize e.find w = found at h ⊢
  rcases found with f | o | ⟨c, a⟩
  · cases h
  · cases h
  · dsimp only at h ⊢
    cases hasked : obstacle w c a e with
    | mk outcome e₁ =>
      rw [hasked] at h
      rcases outcome with f | _ | o
      · cases h
      · obtain ⟨e₀, hholds, hpayable, -⟩ := asked_of_obstacle hasked
        exact ⟨_, e₀, e₁, rfl, hholds, hpayable⟩
      · cases h

/-! ## After the answer -/

/-- What can be paid is paid. -/
theorem solvent_payCost (h : (affordable i e).1 = .ok true) :
    CardRules.Solvent (payCost i e).1 := by
  rw [affordable_fst] at h
  unfold payCost
  cases hcost : i.ability.cost with
  | none => trivial
  | some c =>
    rw [hcost] at h
    have hnoted := noted_hosted (e := e) (e.replacements.applyCost c (e.context i))
    dsimp only at h ⊢
    generalize e.hosted (e.replacements.applyCost c (e.context i)) = done at h hnoted
    obtain ⟨f | c, e'⟩ := done
    · cases h
    · have hpay : CardRules.Solvent (c.pay i.controller e'.game) := by
        rw [hnoted.game]
        exact Cost.solvent_pay h
      dsimp only
      split <;> rename_i hpaid
      · trivial
      · rwa [hpaid] at hpay

/-- Where bodies are kept, the invocation that is asked for is the one that is carried out. -/
theorem replaceBody_of_keepsBodies (he : e.KeepsBodies) : replaceBody i e = (.ok i, e) := by
  unfold replaceBody
  rw [Replacements.applyBody_of_none he]
  rfl

theorem solvent_conditionHolds (he : e.Solvent) : CardRules.Solvent (conditionHolds i e).1 := by
  unfold conditionHolds
  cases i.ability.condition with
  | none => trivial
  | some c => exact Condition.solvent_eval (fun p => he.probes p _) c _

theorem solvent_runBody (he : e.Solvent) : CardRules.Solvent (runBody i e).1 := by
  unfold runBody
  split
  · exact solvent_map (he.scripts.execute _ _ _)
  · exact he.resolvers.resolve i e.game _

/-- No stage complains of an unpaid cost once the cost can be paid. -/
theorem settle_isRefusal (hb : e.KeepsBodies) (he : e.Solvent)
    (hpay : (affordable i e).1 = .ok true) : (settle i e).1.isRefusal = false := by
  have hsettled := settled_settle i e
  generalize (settle i e).1 = ending at hsettled
  cases hsettled with
  | skipped | ran => rfl
  | unpaid hpaid _ _ =>
    have hsolvent := solvent_payCost hpay
    rwa [hpaid.eq] at hsolvent
  | failed hpaid hfails _ _ =>
    have hplugs := hpaid.samePlugs
    have hkept := replaceBody_of_keepsBodies (i := i) (hplugs.keepsBodies hb)
    have hready := hplugs.solvent he
    cases hfails with
    | replace hreplaced => cases hkept.symm.trans hreplaced.eq
    | condition hreplaced _ hasked =>
      cases hkept.symm.trans hreplaced.eq
      have hsolvent := solvent_conditionHolds (i := i) hready
      rwa [hasked.eq] at hsolvent
    | body hreplaced hasked _ hran =>
      cases hkept.symm.trans hreplaced.eq
      have hsolvent := solvent_runBody (i := i) (hasked.noted.samePlugs.solvent hready)
      rwa [hran.eq] at hsolvent

/-- Asking whether a wish would be granted tells what granting it does: a wish that can be granted
is carried out, a wish that cannot is refused, and where asking fails, granting fails for the same
reason. Neither asking nor a wish that is not granted changes the engine, apart from what host code
writes into the journal. -/
theorem canActivate_agrees (bonus : DonBonus) (hh : host.Only Reaction.LeavesGame)
    (hr : e.resolvers = .standard bonus) (hs : e.scripts = .stock) (hb : e.KeepsBodies)
    (he : e.Steady) (hp : ∀ p view, (e.answer.probe p view).Solvent) (w : Wish) :
    Noted e (canActivate w e).2 ∧ ∀ e', Noted e e' →
      ((canActivate w e).1 = .ok true → ∃ ran, (activate host w e').1 = .ok ran) ∧
      ((canActivate w e).1 = .ok false → (∃ o, (activate host w e').1 =
        .error (Obstacle.refusal w o)) ∧ Noted e' (activate host w e').2) ∧
      ∀ f, (canActivate w e).1 = .error f →
        (activate host w e').1 = .error f ∧ Noted e' (activate host w e').2 := by
  refine ⟨noted_canActivate, fun e' h => ?_⟩
  have hplugs := h.samePlugs
  have hsolvent : e.Solvent :=
    ⟨hp, hr ▸ ResolverTable.standard_solvent bonus, hs ▸ ScriptBook.stock_solvent⟩
  rw [← canActivate_again he h]
  refine ⟨fun hyes => ?_, fun hno => ?_, fun f hfault => ?_⟩
  · obtain ⟨i, e₀, e₁, hg, hholds, hpayable⟩ := granted_of_canActivate hyes
    have hplugs₀ := hplugs.trans (noted_of_conditionHolds hholds).samePlugs
    have hpriced := noted_of_affordable hpayable
    have hplugs₁ := hplugs₀.trans hpriced.samePlugs
    have hpayable₁ : (affordable i e₁).1 = .ok true := by
      rw [affordable_again (hplugs₀.steady he).costs hpriced, hpayable]
    have hanswer := (activate_granted hh hg).1
    rw [Ending.answer, settle_isRefusal (hplugs₁.keepsBodies hb) (hplugs₁.solvent hsolvent)
      hpayable₁] at hanswer
    exact ⟨_, hanswer⟩
  · obtain ⟨hnone, hrefused⟩ := refused_of_canActivate host hno
    exact ⟨hrefused, noted_of_not_granted host hnone⟩
  · obtain ⟨hnone, hfailed⟩ := failed_of_canActivate host hfault
    exact ⟨hfailed, noted_of_not_granted host hnone⟩

/-- The first player may draw, the second one is refused, and nobody else can be asked about. -/
theorem canActivate_agrees_drawing :
    (∃ ran, (activate .silent drawing (wielding (paidDraw "draw_1").ability)).1 = .ok ran) ∧
    (∃ o, (activate .silent { drawing with player := some "PLAYER_2" }
      (wielding (paidDraw "draw_1").ability)).1 = .error (Obstacle.refusal
        { drawing with player := some "PLAYER_2" } o)) ∧
    ∃ f, (canActivate { drawing with player := some "PLAYER_3" }
        (wielding (paidDraw "draw_1").ability)).1 = .error f ∧
      (activate .silent { drawing with player := some "PLAYER_3" }
        (wielding (paidDraw "draw_1").ability)).1 = .error f := by
  have hagrees := fun w => (canActivate_agrees (e := wielding (paidDraw "draw_1").ability)
    ⟨none, 1000⟩ (Host.only_silent _) rfl rfl (fun r hr => by cases hr)
    ⟨fun p _ => p.steady_ask, fun r hr => by cases hr⟩ (fun p _ => p.solvent_ask) w).2 _ (.refl _)
  refine ⟨(hagrees drawing).1 (by cbv), ((hagrees _).2.1 (by cbv)).1, ?_⟩
  have hasked : (canActivate { drawing with player := some "PLAYER_3" }
      (wielding (paidDraw "draw_1").ability)).1.isOk = false := by
    cbv
  cases hfault : (canActivate { drawing with player := some "PLAYER_3" }
      (wielding (paidDraw "draw_1").ability)).1 with
  | ok b =>
    rw [hfault] at hasked
    cases hasked
  | error f => exact ⟨f, rfl, ((hagrees _).2.2 f hfault).1⟩

end Engine

end CardRules

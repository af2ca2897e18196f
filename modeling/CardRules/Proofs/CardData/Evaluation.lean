import CardRules.Proofs.CardData.Accepted
import CardRules.Proofs.Cost.Exact
import CardRules.Proofs.Game.DonPool

/-!
# Conditions and costs from card data do not fail

What the checks of card data let through gets an answer wherever both players sit
(`accepted_never_fails`). A condition has the parts that its kind needs, on each level
(`Condition.Recordable`), its operands are numbers and texts, which have values, and any two values
can be compared; so it is decided, and no host is asked. A cost is paid, or refused as unpaid.
-/

namespace CardRules

variable {ctx : Context}

/-! ## Values -/

theorem Quantity.exists_count {g : Game} (hp : ∀ p, p ∈ g.seats) (p : Player)
    (measure : Side → Nat) : ∃ v, Quantity.count g p measure = .ok v := by
  obtain ⟨s, hs⟩ := Option.isSome_iff_exists.1 (Game.isSome_side?_iff.2 (hp p))
  refine ⟨.int (measure s), ?_⟩
  rw [Quantity.count, Game.side_eq_ok_iff.2 hs]
  rfl

theorem Quantity.exists_value (hp : ∀ p, p ∈ ctx.game.seats) (q : Quantity) :
    ∃ v, q.value ctx = .ok v := by
  cases q with
  | sourcePower | sourceCost | sourceDon | turn | phase => exact ⟨_, rfl⟩
  | controllerHand | controllerLife | controllerDon | controllerActiveDon
  | controllerCharacters | opponentHand | opponentLife | opponentCharacters =>
    exact exists_count hp _ _

theorem Operand.exists_value (hp : ∀ p, p ∈ ctx.game.seats) {o : Operand} (h : o.Recordable) :
    ∃ v, o.value ctx = .ok v := by
  cases o with
  | int n => exact ⟨_, rfl⟩
  | text s =>
    rw [value]
    split
    · exact Quantity.exists_value hp _
    · split
      · exact ⟨_, rfl⟩
      · exact ⟨_, rfl⟩
  | other v => cases h

/-! ## Conditions -/

namespace Condition

variable {c : Condition} {cs : List Condition}

theorem exists_evalCompare (hp : ∀ p, p ∈ ctx.game.seats) (hc : c.Plain)
    (hk : c.kind = .compare) :
    ∃ b, evalCompare ctx c.operator c.left c.right = .ok b := by
  have hcomplete := hc.complete
  unfold Complete at hcomplete
  rw [hk] at hcomplete
  obtain ⟨hop, hleft, hright⟩ := hcomplete
  obtain ⟨op, hop⟩ := Option.isSome_iff_exists.1 hop
  obtain ⟨left, hleft⟩ := Option.isSome_iff_exists.1 hleft
  obtain ⟨right, hright⟩ := Option.isSome_iff_exists.1 hright
  obtain ⟨a, ha⟩ := Operand.exists_value hp (hc.left left hleft)
  obtain ⟨b, hb⟩ := Operand.exists_value hp (hc.right right hright)
  refine ⟨op.holds a b, ?_⟩
  rw [hop, hleft, hright, evalCompare, ha, hb]
  rfl

theorem exists_evalAll (h : ∀ c ∈ cs, ∃ b, c.eval ctx = pure b) :
    ∃ b, evalAll ctx cs = pure b := by
  induction cs with
  | nil => exact ⟨true, rfl⟩
  | cons c rest ih =>
    obtain ⟨⟨b, hb⟩, hrest⟩ := List.forall_mem_cons.1 h
    obtain ⟨more, hmore⟩ := ih hrest
    rw [evalAll, hb, pure_bind]
    cases b with
    | true => exact ⟨more, hmore⟩
    | false => exact ⟨false, rfl⟩

theorem exists_evalAny (h : ∀ c ∈ cs, ∃ b, c.eval ctx = pure b) :
    ∃ b, evalAny ctx cs = pure b := by
  induction cs with
  | nil => exact ⟨false, rfl⟩
  | cons c rest ih =>
    obtain ⟨⟨b, hb⟩, hrest⟩ := List.forall_mem_cons.1 h
    obtain ⟨more, hmore⟩ := ih hrest
    rw [evalAny, hb, pure_bind]
    cases b with
    | true => exact ⟨true, rfl⟩
    | false => exact ⟨more, hmore⟩

/-- A condition that data can give is decided without its host. -/
theorem exists_eval (hp : ∀ p, p ∈ ctx.game.seats) {room : Nat} (h : c.Recordable room) :
    ∃ b, c.eval ctx = pure b := by
  induction room generalizing c with
  | zero => cases h
  | succ room ih =>
    obtain ⟨hc, hoperands⟩ := h
    have heach : ∀ d ∈ c.operands, ∃ b, d.eval ctx = pure b := fun d hd => ih (hoperands d hd)
    have hcomplete := hc.complete
    have hcompare := exists_evalCompare hp hc
    obtain ⟨kind, operands, operator, left, right, keyword, zone, color, probe⟩ := c
    cases kind with
    | and => simpa only [eval] using exists_evalAll heach
    | or => simpa only [eval] using exists_evalAny heach
    | not =>
      obtain ⟨d, rfl⟩ := List.length_eq_one_iff.1 hcomplete
      obtain ⟨b, hb⟩ := heach d (List.mem_singleton_self d)
      simp only [eval, hb, pure_bind]
      exact ⟨!b, rfl⟩
    | compare =>
      obtain ⟨b, hb⟩ := hcompare rfl
      simp only [eval]
      exact ⟨b, congrArg Hosted.lift hb⟩
    | hasKeyword | inZone | isColor =>
      simp only [eval]
      exact ⟨_, rfl⟩
    | custom => cases hcomplete

end Condition

/-! ## Costs -/

namespace Cost

variable {g : Game} {who : Player} {s : Side}

theorem exists_payer (hg : g.Sound) (hd : (g.dons.map (·.id)).Nodup) (who : Player) :
    ∃ s, Payer who g s := by
  obtain ⟨s, hs⟩ := Option.isSome_iff_exists.1 (Game.isSome_side?_iff.2 (hg.present who))
  have hcost : s.costArea.Sublist g.dons :=
    (List.sublist_flatten_of_mem (List.mem_map_of_mem (Game.mem_of_side? hs))).trans
      (List.sublist_append_left _ _)
  exact ⟨s, hg.toDistinct, hs, hd.sublist (hcost.map _), fun c _ => hg.present c.owner⟩

theorem exists_canPay (hp : Payer who g s) (c : Cost) : ∃ b, canPay who c g = .ok b := by
  obtain ⟨⟨b, hb, -⟩, -⟩ := isExact_tree c hp
  exact ⟨b, hb⟩

/-- A cost is paid, or it is refused as unpaid. -/
theorem pay_cases (hp : Payer who g s) (c : Cost) : (∃ h, pay who c g = .ok h) ∨
    ∃ message kind has, pay who c g = .error (.unpaidCost message kind c.amount has) := by
  by_cases hc : c.Affordable s
  · obtain ⟨h, hh, -⟩ := (isExact_tree c hp).2 hc
    exact .inl ⟨h, (pay_of_affordable hp hc).trans hh⟩
  · exact .inr (pay_of_not_affordable hp hc)

end Cost

/-! ## Card data -/

namespace CardData

/-- Wherever both players sit, a condition that card data are accepted as is decided, whoever
controls it, with or without a source card and without a word to the host; and where besides no two
cards and no two DON!! share an id, a cost that card data are accepted as is checked, and it is
paid or refused as unpaid. -/
theorem accepted_never_fails (lax : Lenience) (j : Json) :
    (∀ c, condition lax j = .valid c → ∀ ctx : Context, (∀ p, p ∈ ctx.game.seats) →
      ∃ b, c.eval ctx = pure b) ∧
    ∀ c, cost lax j = .valid c → ∀ (g : Game) (who : Player), g.Sound →
      (g.dons.map (·.id)).Nodup → (∃ b, Cost.canPay who c g = .ok b) ∧
        ((∃ h, Cost.pay who c g = .ok h) ∨ ∃ message kind has,
          Cost.pay who c g = .error (.unpaidCost message kind c.amount has)) := by
  refine ⟨fun c hc ctx hp => Condition.exists_eval hp (holds_condition c hc), ?_⟩
  intro c _ g who hg hd
  obtain ⟨s, hs⟩ := Cost.exists_payer hg hd who
  exact ⟨Cost.exists_canPay hs c, Cost.pay_cases hs c⟩

/-- A comparison of a phase with a number, negated. -/
def clash : Json :=
  .obj [("type", .str "NOT"), ("operands", .arr [.obj [
    ("type", .str "COMPARE"), ("operator", .str "LT"), ("left", .str "phase"),
    ("right", .int 3)]])]

/-- A cost of two parts that draw on the same cards. -/
def fees : Json :=
  .obj [("type", .str "COMPOSITE"), ("costs", .arr [
    .obj [("type", .str "TRASH_CARD"), ("amount", .int 1)],
    .obj [("type", .str "TRASH_CARD"), ("amount", .int 1)]])]

theorem accepted_never_fails_opening :
    (∃ c, condition .standard clash = .valid c ∧
      ∀ ctx : Context, ctx.game = Game.opening → ∃ b, c.eval ctx = pure b) ∧
    ∃ c, cost .standard fees = .valid c ∧ (∃ b, Cost.canPay .one c Game.opening = .ok b) ∧
      ((∃ h, Cost.pay .one c Game.opening = .ok h) ∨ ∃ message kind has,
        Cost.pay .one c Game.opening = .error (.unpaidCost message kind c.amount has)) := by
  obtain ⟨c, hc⟩ : ∃ c, condition .standard clash = .valid c := ⟨_, rfl⟩
  obtain ⟨d, hd⟩ : ∃ d, cost .standard fees = .valid d := ⟨_, rfl⟩
  refine ⟨⟨c, hc, fun ctx hctx => (accepted_never_fails .standard clash).1 c hc ctx ?_⟩,
    ⟨d, hd, (accepted_never_fails .standard fees).2 d hd Game.opening .one Game.sound_opening
      (by decide)⟩⟩
  rw [hctx]
  exact Game.sound_opening.present

end CardData

end CardRules

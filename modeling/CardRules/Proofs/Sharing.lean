import CardRules.Condition.Eval
import CardRules.Replacement
import CardRules.Resolver.Table
import CardRules.Script.Basic
import CardRules.Target.Legal

/-!
# Other shared settings

Of the settings that are shared by all engines only the bonus of attached DON!! is ever asked for
again, and only where there is no bonus of one's own. A context is the same `sharing` another
bonus as far as anybody may look at it: whatever is `Impartial` answers alike. Conditions are, as
far as the host's answers to their probes are; replaced costs and bodies are, as far as the
functions that replace them are; filters, the check of targets and the standard resolvers are.
-/

namespace CardRules

def DonBonus.sharing (n : Int) (b : DonBonus) : DonBonus := { b with shared := n }

def View.sharing (n : Int) (v : View) : View := { v with bonus := v.bonus.sharing n }

def Context.sharing (n : Int) (ctx : Context) : Context := { ctx with bonus := ctx.bonus.sharing n }

def ScriptContext.sharing (n : Int) (ctx : ScriptContext) : ScriptContext :=
  { ctx with bonus := ctx.bonus.sharing n }

/-- The host answers its probes alike, whatever the shared settings say. Its tests of cards are not
told of them. -/
def Answering.Impartial (answer : Answering) : Prop :=
  ∀ p v n, v.bonus.own.isSome → answer.probe p (v.sharing n) = answer.probe p v

theorem Answering.impartial_written : Answering.written.Impartial := fun _ _ _ _ => rfl

/-- A function of values and contexts that does not look at shared settings. -/
def Context.Impartial {α β : Type} (f : α → Context → β) : Prop :=
  ∀ a ctx n, ctx.bonus.own.isSome → f a (ctx.sharing n) = f a ctx

section

variable {bonus : DonBonus} {g : Game} {n : Int}

/-! ## Power, filters and resolvers -/

theorem DonBonus.value_sharing (h : bonus.own.isSome) : (bonus.sharing n).value = bonus.value := by
  obtain ⟨_ | v, shared⟩ := bonus
  · cases h
  · rfl

theorem Game.effectivePower_sharing (h : bonus.own.isSome) :
    g.effectivePower (bonus.sharing n) = g.effectivePower bonus := by
  funext c
  rw [effectivePower, effectivePower, DonBonus.value_sharing h]

theorem Card.judge_sharing (h : bonus.own.isSome) :
    Card.judge g (bonus.sharing n) = Card.judge g bonus := by
  funext test f c
  rw [judge, judge, suits, suits, Game.effectivePower_sharing h]

theorem Card.fits_sharing (h : bonus.own.isSome) :
    Card.fits g (bonus.sharing n) = Card.fits g bonus := by
  funext test f c
  rw [fits, fits, judge_sharing h]

theorem Card.testFault?_sharing (h : bonus.own.isSome) :
    Card.testFault? g (bonus.sharing n) = Card.testFault? g bonus := by
  funext test f cards
  rw [testFault?, testFault?, judge_sharing h]

theorem Target.check_sharing (h : bonus.own.isSome) :
    Target.check g (bonus.sharing n) = Target.check g bonus := by
  funext test filter p min max targets
  rw [check, check, valid, valid, Game.legalTargets, Game.legalTargets, Card.fits_sharing h,
    Card.testFault?_sharing h]

theorem ResolverTable.standard_sharing (h : bonus.own.isSome) :
    standard (bonus.sharing n) = standard bonus := by
  have hlimits : Resolver.withinLimits (bonus.sharing n) = Resolver.withinLimits bonus := by
    funext ps c g
    rw [Resolver.withinLimits, Resolver.withinLimits, Game.effectivePower_sharing h]
  have hremove : Resolver.removeCharacter (bonus.sharing n) = Resolver.removeCharacter bonus := by
    funext dest i c g
    rw [Resolver.removeCharacter, Resolver.removeCharacter, hlimits]
  simp only [standard, Resolver.koCharacter, Resolver.bounceCharacter, Resolver.banishCharacter,
    hremove]

end

/-! ## Conditions -/

namespace Condition

variable {ctx : Context} {n : Int}

theorem evalCompare_sharing (h : ctx.bonus.own.isSome) (op : Option Comparison)
    (left right : Option Operand) :
    evalCompare (ctx.sharing n) op left right = evalCompare ctx op left right := by
  have hvalue : Operand.value (ctx.sharing n) = Operand.value ctx := by
    have hquantity : ∀ q : Quantity, q.value (ctx.sharing n) = q.value ctx := by
      intro q
      cases q with
      | sourcePower =>
        show Except.ok (Operand.int ((ctx.source.map
          (ctx.game.effectivePower (ctx.bonus.sharing n))).getD 0)) = _
        rw [Game.effectivePower_sharing h]
        rfl
      | _ => rfl
    funext o
    unfold Operand.value
    simp only [hquantity]
  unfold evalCompare
  rw [hvalue]

mutual
theorem eval_sharing (h : ctx.bonus.own.isSome) (ha : ctx.answer.Impartial) :
    ∀ c : Condition, c.eval (ctx.sharing n) = c.eval ctx
  | ⟨kind, operands, operator, left, right, keyword, zone, color, probe⟩ => by
    cases kind with
    | and => exact evalAll_sharing h ha operands
    | or => exact evalAny_sharing h ha operands
    | not =>
      match operands with
      | [] => rfl
      | [c] =>
        rw [eval, eval, eval_sharing h ha c]
      | _ :: _ :: _ => rfl
    | compare => exact congrArg Hosted.lift (evalCompare_sharing h operator left right)
    | hasKeyword | inZone | isColor => rfl
    | custom =>
      cases probe with
      | some p => exact ha p ctx.toView n h
      | none => rfl

theorem evalAll_sharing (h : ctx.bonus.own.isSome) (ha : ctx.answer.Impartial) :
    ∀ cs : List Condition, evalAll (ctx.sharing n) cs = evalAll ctx cs
  | [] => rfl
  | c :: rest => by
    rw [evalAll, evalAll, eval_sharing h ha c, evalAll_sharing h ha rest]

theorem evalAny_sharing (h : ctx.bonus.own.isSome) (ha : ctx.answer.Impartial) :
    ∀ cs : List Condition, evalAny (ctx.sharing n) cs = evalAny ctx cs
  | [] => rfl
  | c :: rest => by
    rw [evalAny, evalAny, eval_sharing h ha c, evalAny_sharing h ha rest]
end

end Condition

/-! ## Replacements -/

/-- The functions of the entry do not look at shared settings. -/
structure Replacement.Impartial (r : Replacement) : Prop where
  cost : ∀ replace ∈ r.replaceCost, Context.Impartial replace
  body : ∀ replace ∈ r.replaceBody, Context.Impartial replace

namespace Replacements

/-- No registered function looks at shared settings. -/
def Impartial (rs : Replacements) : Prop := ∀ r ∈ rs.entries, r.Impartial

variable {rs : Replacements} {ctx : Context} {n : Int}

theorem chain_sharing {α : Type} {function : Replacement → Option (α → Context → Hosted α)}
    {entries : List Replacement} (h : ctx.bonus.own.isSome)
    (hr : ∀ r ∈ entries, ∀ replace ∈ function r, Context.Impartial replace) :
    chain function (ctx.sharing n) entries = chain function ctx entries := by
  induction entries with
  | nil => rfl
  | cons r rest ih =>
    funext a
    have hrest := ih fun s hs => hr s (List.mem_cons_of_mem r hs)
    rw [chain, chain, hrest]
    cases hf : function r with
    | none => rfl
    | some replace =>
      dsimp only
      rw [hr r List.mem_cons_self replace hf a ctx n h]
      rfl

theorem applyCost_sharing (h : ctx.bonus.own.isSome) (hrs : rs.Impartial) (c : Cost) :
    rs.applyCost c (ctx.sharing n) = rs.applyCost c ctx :=
  congrFun (chain_sharing h fun r hr => (hrs r (List.mem_mergeSort.1 hr)).cost) c

theorem applyBody_sharing (h : ctx.bonus.own.isSome) (hrs : rs.Impartial) (i : Invocation) :
    rs.applyBody i (ctx.sharing n) = rs.applyBody i ctx :=
  congrFun (chain_sharing h fun r hr => (hrs r (List.mem_mergeSort.1 hr)).body) i

end Replacements

end CardRules

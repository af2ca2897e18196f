import CardRules.Engine.Resolve
import CardRules.Target.Legal

/-!
# Activating effects

A player may use an activated ability of a card when nothing speaks against it.
`Engine.obstacle` gives the first reason why not; `Engine.activate` refuses in that case and
otherwise resolves the ability at once.
-/

namespace CardRules

/-- A player's wish to use an ability of a card. -/
structure Wish where
  cardId : String
  effectId : String
  targets : List Target := []
  values : List (String × Json) := []
  /-- The player as named with the wish. -/
  player : Option String := none

inductive Obstacle where
  | cardNotFound
  | effectNotFound
  | notController
  | notActivateEffect
  | wrongPhase
  | alreadyUsed
  | notOnField
  | conditionNotMet
  | cannotPayCost
  | illegalTargets
  deriving DecidableEq, Repr, Inhabited

namespace Obstacle

instance : Named Obstacle where
  title := "reason"
  all := [cardNotFound, effectNotFound, notController, notActivateEffect, wrongPhase, alreadyUsed,
    notOnField, conditionNotMet, cannotPayCost, illegalTargets]
  name
    | cardNotFound => "card_not_found"
    | effectNotFound => "effect_not_found"
    | notController => "not_controller"
    | notActivateEffect => "not_activate_effect"
    | wrongPhase => "wrong_phase"
    | alreadyUsed => "already_used"
    | notOnField => "not_on_field"
    | conditionNotMet => "condition_not_met"
    | cannotPayCost => "cannot_pay_cost"
    | illegalTargets => "illegal_targets"

def refusal (w : Wish) (o : Obstacle) : Fault :=
  .refused none (some w.effectId) (some w.cardId) (some (Named.name o))

end Obstacle

namespace Engine

variable {σ : Type}

def wished (w : Wish) (c : Card) (a : Ability) : Invocation :=
  .ofAbility a c.controller w.targets w.values 0

def find (w : Wish) (e : Engine σ) : Except Fault (Except Obstacle (Card × Ability)) :=
  match e.game.card? w.cardId with
  | none => .ok (.error .cardNotFound)
  | some c =>
    match c.face.ability? w.effectId with
    | none => .ok (.error .effectNotFound)
    | some a =>
      match w.player with
      | none => .ok (.ok (c, a))
      | some name =>
        match (Named.read name : Except Fault Player) with
        | .error f => .error f
        | .ok p => if p = c.controller then .ok (.ok (c, a)) else .ok (.error .notController)

/-- What in the card and the moment speaks against using an ability. -/
def staticObstacle (c : Card) (a : Ability) (e : Engine σ) : Option Obstacle :=
  if a.timing != .activate then some .notActivateEffect
  else if Text.contains "main".toList (Text.lower a.label).toList && e.game.phase != .main then
    some .wrongPhase
  else if a.oncePerTurn && e.isUsed a then some .alreadyUsed
  else if c.face.category != .event && !c.onField then some .notOnField
  else none

def targetObstacle (a : Ability) (i : Invocation) (e : Engine σ) :
    Except Fault (Option Obstacle) :=
  if Target.hasRepeatedCard i.targets then .ok (some .illegalTargets)
  else
    match a.parameters.targetFilter with
    | none => .ok none
    | some f =>
      (Target.check e.game e.bonus e.answer.test (some f) i.controller a.parameters.minTargets
        a.parameters.maxTargets i.targets).map fun legal =>
          if legal then none else some .illegalTargets

/-- Whether the controller can pay the replaced cost. -/
def affordable (i : Invocation) (e : Engine σ) : Except Fault Bool × Engine σ :=
  match i.ability.cost with
  | none => (.ok true, e)
  | some c =>
    match e.hosted (e.replacements.applyCost c (e.context i)) with
    | (.error f, e) => (.error f, e)
    | (.ok c, e) => (c.canPay i.controller e.game, e)

/-- The first reason why an ability of a card cannot be used. -/
def obstacle (w : Wish) (c : Card) (a : Ability) (e : Engine σ) :
    Except Fault (Option Obstacle) × Engine σ :=
  match staticObstacle c a e with
  | some o => (.ok (some o), e)
  | none =>
    let i := wished w c a
    match conditionHolds i e with
    | (.error f, e) => (.error f, e)
    | (.ok false, e) => (.ok (some .conditionNotMet), e)
    | (.ok true, e) =>
      match affordable i e with
      | (.error f, e) => (.error f, e)
      | (.ok false, e) => (.ok (some .cannotPayCost), e)
      | (.ok true, e) => (targetObstacle a i e, e)

def canActivate (w : Wish) (e : Engine σ) : Except Fault Bool × Engine σ :=
  match e.find w with
  | .error f => (.error f, e)
  | .ok (.error _) => (.ok false, e)
  | .ok (.ok (c, a)) =>
    match obstacle w c a e with
    | (outcome, e) => (outcome.map (·.isNone), e)

/-- Resolves an accepted invocation. A cost that cannot be paid after all is a refusal; any
other failure is reported on the bus. -/
def resolveAccepted (host : Host σ) (w : Wish) (i : Invocation) (e : Engine σ) :
    Except Fault Bool × Engine σ :=
  match resolveInvocation host i e with
  | (.ok ran, e) => (.ok ran, e)
  | (.error (.unpaidCost ..), e) => (.error (Obstacle.refusal w .cannotPayCost), e)
  | (.error f, e) => (.ok false, e.tell host (.failed i f))

/-- Uses an ability and resolves it at once. Gives whether its body ran. -/
def activate (host : Host σ) (w : Wish) (e : Engine σ) : Except Fault Bool × Engine σ :=
  match e.find w with
  | .error f => (.error f, e)
  | .ok (.error o) => (.error (Obstacle.refusal w o), e)
  | .ok (.ok (c, a)) =>
    match obstacle w c a e with
    | (.error f, e) => (.error f, e)
    | (.ok (some o), e) => (.error (Obstacle.refusal w o), e)
    | (.ok none, e) =>
      let i := wished w c a
      resolveAccepted host w i (e.tell host (.activated w.cardId i))

end Engine

end CardRules

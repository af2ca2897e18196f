import CardRules.Hosted
import CardRules.Target.Matching

/-!
# Invocations

An invocation is one use of an ability: by whom, with which targets and choices. Its context
is what conditions, replacements and scripts get to see, together with the host's way to
answer its probes.
-/

namespace CardRules

/-- One use of an ability. -/
structure Invocation where
  ability : Ability
  sourceId : String
  controller : Player
  targets : List Target := []
  /-- Choices that came with the use, by name. -/
  values : List (String × Json) := []
  priority : Int := 0
  /-- Whether the body has run. -/
  resolved : Bool := false
  deriving Repr, Inhabited

namespace Invocation

def ofAbility (a : Ability) (controller : Player) (targets : List Target)
    (values : List (String × Json)) (priority : Int) : Invocation :=
  { ability := a, sourceId := a.sourceId, controller := controller, targets := targets,
    values := values, priority := priority }

def cardIds (i : Invocation) : List String := i.targets.filterMap (·.cardId?)

/-- The first player among the targets, or else the controller. -/
def affectedPlayer (i : Invocation) : Player :=
  (i.targets.findSome? fun
    | .player p => p
    | _ => none).getD i.controller

end Invocation

/-- What is to be seen of a use of an ability. -/
structure View where
  game : Game
  source : Option Card
  controller : Player
  targets : List Target := []
  values : List (String × Json) := []
  invocation : Option Invocation := none
  bonus : DonBonus
  deriving Repr, Inhabited

/-- Asks a probe as it is written: its name goes into the journal first. -/
def Probe.ask (p : Probe) : Hosted Bool := do
  Hosted.record (.str p.name)
  match p.answer with
  | .ok b => pure b
  | .error text => throw (.host text)

/-- A host's ways to answer: its probes, which may look at everything a condition sees, and its own
tests of cards. -/
structure Answering where
  probe : Probe → View → Hosted Bool
  test : CardTest := .written

def Answering.written : Answering where
  probe p _ := p.ask

/-- What conditions, replacements and scripts see, and how the host answers. -/
structure Context extends View where
  answer : Answering := .written

namespace Context

def ofInvocation (g : Game) (bonus : DonBonus) (i : Invocation)
    (answer : Answering := .written) : Context :=
  { game := g, source := g.card? i.sourceId, controller := i.controller, targets := i.targets,
    values := i.values, invocation := some i, bonus := bonus, answer := answer }

end Context

end CardRules

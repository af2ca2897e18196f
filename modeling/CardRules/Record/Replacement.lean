import CardRules.Record.Ability
import CardRules.Replacement

/-!
# Records of replacements

Replacing functions written as data. When a function is called it records its name; it may
then fail.
-/

namespace CardRules.Replacement

open Json

def called (name : String) (j : Json) : Hosted Unit := do
  Hosted.record (.str name)
  match j.field "raises" with
  | .str message => throw (.host message)
  | _ => pure ()

/-- A function on costs: it adds to the amount, multiplies it, or puts another cost in its
place. -/
def costReplacing (name : String) (j : Json) : Except Fault (Cost → Context → Hosted Cost) := do
  let add ← asOption asInteger (j.field "add")
  let times ← asOption asInteger (j.field "times")
  let set ← asOption Cost.ofJson (j.field "set")
  pure fun c _ => do
    called name j
    match add, times, set with
    | some n, _, _ => pure { c with amount := max 0 (c.amount + n) }
    | none, some n, _ => pure { c with amount := c.amount * n }
    | none, none, some cost => pure cost
    | none, none, none => pure c

/-- The ability with its card count multiplied. It is a new ability, no longer that of the card.
-/
def countTimes (n : Int) (a : Ability) : Ability :=
  let ps := a.parameters
  { a with parameters := { ps with cardCount := some (ps.cardCount.getD 0 * n) }, mark := none }

/-- A function on invocations: it changes the ability, the targets or the controller. -/
def bodyReplacing (name : String) (j : Json) :
    Except Fault (Invocation → Context → Hosted Invocation) := do
  let times ← asOption asInteger (j.field "count_times")
  let ability ← asOption (Ability.ofJson Ability.standInId) (j.field "effect")
  let targets ← asOption (asList Target.ofJson) (j.field "targets")
  let controller ← asOption (asWord Player) (j.field "controller")
  pure fun i _ => do
    called name j
    let counted := match times with
      | some n => countTimes n i.ability
      | none => i.ability
    pure { i with
      ability := ability.getD counted, targets := targets.getD i.targets,
      controller := controller.getD i.controller }

def register (rs : Replacements) (j : Json) : Except Fault (Replacement × Replacements) := do
  let cardId ← j.need "card_id" asText
  let effectId ← j.getOr "effect_id" "R" asText
  let priority ← j.getOr "priority" 0 asInteger
  let name ← j.getOr "name" "r" asText
  let ability ← Ability.revised
    { Ability.blank cardId with id := effectId, timing := .replacement } (j.field "effect")
  let onCost ← asOption (costReplacing name) (j.field "cost_fn")
  let onBody ← asOption (bodyReplacing name) (j.field "body_fn")
  rs.register cardId ability priority onCost onBody

end CardRules.Replacement

import CardRules.Ability.Invocation
import CardRules.Game.Update
import CardRules.Hosted

/-!
# Resolvers

A resolver carries out one kind of ability: `accepts` looks at the parameters, `apply` gives
the next game. Most resolvers treat their card targets one by one; a target that is gone is
passed over.
-/

namespace CardRules

/-- What carries out one kind of ability. -/
structure Resolver where
  name : String
  accepts : Invocation → Bool
  apply : Invocation → Game → Hosted Game

namespace Resolver

def hasCount (i : Invocation) : Bool := i.ability.parameters.cardCount.any (0 < ·)

/-- Treats the cards of a list one after the other, each as it then stands; missing ones are
passed over. -/
def eachCard (treat : Card → Game → Except Fault Game) : List String → Game → Except Fault Game
  | [], g => .ok g
  | id :: rest, g =>
    match g.card? id with
    | none => eachCard treat rest g
    | some c => do
      let g ← treat c g
      eachCard treat rest g

/-- A resolver that treats its card targets one by one. -/
def onCards (name : String) (accepts : Invocation → Bool)
    (treat : Invocation → Card → Game → Except Fault Game) : Resolver where
  name := name
  accepts := accepts
  apply i g := Hosted.lift (eachCard (treat i) i.cardIds g)

/-- A resolver that runs no host code. -/
def plain (name : String) (accepts : Invocation → Bool)
    (next : Invocation → Game → Except Fault Game) : Resolver where
  name := name
  accepts := accepts
  apply i g := Hosted.lift (next i g)

/-- The cards a player chose with the invocation, if a choice came with it. A text is read as its
characters and an object as its keys; entries that are no texts name no card. -/
def chosenIds (i : Invocation) : Except Fault (Option (List String)) :=
  match i.values.lookup "card_ids" with
  | none | some .null => .ok none
  | some (.arr items) =>
    if items.any fun
      | .arr _ | .obj _ => true
      | _ => false
    then .error .wrongType
    else .ok (some (items.filterMap fun
      | .str s => some s
      | _ => none))
  | some (.str s) => .ok (some (s.toList.map fun c => String.ofList [c]))
  | some (.obj fields) => .ok (some (fields.map (·.1)))
  | some _ => .error .wrongType

end Resolver

end CardRules

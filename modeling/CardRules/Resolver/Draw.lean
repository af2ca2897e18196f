import CardRules.Resolver.Basic
import CardRules.Target.Matching

/-!
# Drawing, discarding, trashing and searching

Abilities that move cards between deck, hand and trash. A player's choice comes with the
invocation; it is kept to the cards that may be chosen and cut to the number that may be
taken.
-/

namespace CardRules.Resolver

def count (i : Invocation) : Int := i.ability.parameters.cardCount.getD 0

def takeFromDeck (dest : Zone) (i : Invocation) (g : Game) : Except Fault Game := do
  let side ← g.side i.affectedPlayer
  g.moveCards dest ((firstItems (count i) side.deck).map (·.id))

def drawCards : Resolver := plain "DrawCardsResolver" hasCount (takeFromDeck .hand)

/-- The cards of a hand from the cheapest on; of equally cheap ones the first comes first. -/
def cheapestFirst (hand : List Card) : List Card :=
  hand.mergeSort fun a b => a.face.printedCost ≤ b.face.printedCost

def discards (i : Invocation) (hand : List Card) : Except Fault (List String) := do
  let n := min (min (i.ability.parameters.maxTargets.getD (count i)) (count i)) hand.length
  match ← chosenIds i with
  | some ids => pure (firstItems n (ids.filter fun id => hand.any (·.id == id)))
  | none => pure ((firstItems n (cheapestFirst hand)).map (·.id))

def discardCards : Resolver :=
  plain "DiscardCardsResolver" hasCount fun i g => do
    let side ← g.side i.affectedPlayer
    let ids ← discards i side.hand
    g.moveCards .trash ids

def trashOne (c : Card) (g : Game) : Except Fault Game :=
  if c.zone == .trash then .ok g else g.moveCard c.id .trash true

def trashCards : Resolver :=
  plain "TrashCardsResolver" (fun i => hasCount i || !i.cardIds.isEmpty) fun i g =>
    if i.cardIds.isEmpty then takeFromDeck .trash i g else eachCard trashOne i.cardIds g

/-- The cards taken out of those that match: the chosen ones, or without a choice the first
ones. -/
def picks (i : Invocation) (matching : List Card) : Except Fault (List String) := do
  let n := min (i.ability.parameters.maxTargets.getD 1) matching.length
  match ← chosenIds i with
  | some ids => pure (firstItems n (ids.filter fun id => matching.any (·.id == id)))
  | none => pure ((firstItems n matching).map (·.id))

/-- Looks at the top cards of the controller's deck, takes picked ones to hand and lays the
others at the bottom in their order. -/
def lookAndTake (i : Invocation) (g : Game) : Except Fault Game := do
  let side ← g.side i.controller
  let looked := firstItems (count i) side.deck
  if looked.isEmpty then return g
  let criteria := i.ability.parameters.searchCriteria
  let picked ← picks i (looked.filter fun c => criteria.all (Card.meets · c))
  let g ← g.moveCards .hand picked
  g.moveCards .deck ((looked.map (·.id)).filter (!picked.contains ·))

def searchDeck : Resolver := plain "SearchDeckResolver" hasCount lookAndTake

end CardRules.Resolver

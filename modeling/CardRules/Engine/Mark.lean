import CardRules.Engine.Basic

/-!
# Marks

An ability that can be used once per turn is known by its mark, wherever its card goes and however
its text is copied. Where a game gives the same mark to several abilities, a use of one of them is
a use of all. The others get marks of their own when the engine takes the game in.
-/

namespace CardRules

abbrev Marking (α : Type) := StateM Nat α

namespace Marking

/-- An ability keeps the mark that it has. -/
def ability (a : Ability) : Marking Ability := fun next =>
  match a.mark with
  | some _ => (a, next)
  | none => ({ a with mark := some next }, next + 1)

def card (c : Card) : Marking Card := do
  let abilities ← c.face.abilities.mapM ability
  pure { c with face := { c.face with abilities := abilities } }

def side (s : Side) : Marking Side := do
  let deck ← s.deck.mapM card
  let hand ← s.hand.mapM card
  let trash ← s.trash.mapM card
  let life ← s.life.mapM card
  let banished ← s.banished.mapM card
  let leader ← s.leader.mapM card
  let characters ← s.characters.mapM card
  let stage ← s.stage.mapM card
  pure { s with
    deck := deck, hand := hand, trash := trash, life := life, banished := banished,
    leader := leader, characters := characters, stage := stage }

def game (g : Game) : Marking Game := do
  let sides ← g.sides.mapM side
  pure { g with sides := sides }

end Marking

namespace Engine

variable {σ : Type}

/-- The abilities of all cards in the game, card by card in the order of look-up. -/
def abilities (g : Game) : List Ability := g.placed.flatMap (·.card.face.abilities)

/-- The first mark that neither the engine nor an ability in the game has. -/
def freeMark (e : Engine σ) (g : Game) : Nat :=
  ((abilities g).filterMap (·.mark)).foldl (fun n m => max n (m + 1)) e.nextMark

/-- The engine with another game, where every ability has a mark. Abilities that are new to the
engine may start out as used. -/
def install (e : Engine σ) (g : Game) : Engine σ :=
  let (marked, next) := Marking.game g |>.run (e.freeMark g)
  let used := (abilities marked).filterMap fun a =>
    a.mark.filter fun m => a.usedThisTurn && e.nextMark ≤ m
  { e with
    game := { marked with revision := e.game.revision + 1 }, nextMark := next,
    used := e.used ++ used }

def isUsed (e : Engine σ) (a : Ability) : Bool := a.mark.any e.used.contains

/-- The engine with an ability marked as used, if its uses are limited. -/
def markUsed (e : Engine σ) (a : Ability) : Engine σ :=
  match a.oncePerTurn, a.mark with
  | true, some m => { e with used := m :: e.used }
  | _, _ => e

def usedIds (e : Engine σ) : List String :=
  ((abilities e.game).filter e.isUsed).map (·.id)

def resetUsed (e : Engine σ) : Engine σ := { e with used := [] }

end Engine

end CardRules

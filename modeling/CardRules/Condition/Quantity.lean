import CardRules.Ability.Invocation
import CardRules.Json.Double
import CardRules.Text.Integer

/-!
# Quantities of the game

The words that a comparison may use for a quantity of the game, and how an operand becomes a
value: integers, and yes and no, stand for themselves, other numbers for their whole part,
words of the vocabulary for their quantity, words that write an integer for that integer, and
any other word for itself. Nothing else has a value.
-/

namespace CardRules

inductive Quantity where
  | sourcePower
  | sourceCost
  | sourceDon
  | turn
  | phase
  | controllerHand
  | controllerLife
  | controllerDon
  | controllerActiveDon
  | controllerCharacters
  | opponentHand
  | opponentLife
  | opponentCharacters
  deriving DecidableEq, Repr

namespace Quantity

def all : List Quantity := [sourcePower, sourceCost, sourceDon, turn, phase, controllerHand,
  controllerLife, controllerDon, controllerActiveDon, controllerCharacters, opponentHand,
  opponentLife, opponentCharacters]

def word : Quantity → String
  | sourcePower => "source.power"
  | sourceCost => "source.cost"
  | sourceDon => "source.don"
  | turn => "turn"
  | phase => "phase"
  | controllerHand => "controller.hand"
  | controllerLife => "controller.life"
  | controllerDon => "controller.don"
  | controllerActiveDon => "controller.active_don"
  | controllerCharacters => "controller.characters"
  | opponentHand => "opponent.hand"
  | opponentLife => "opponent.life"
  | opponentCharacters => "opponent.characters"

def ofWord? (s : String) : Option Quantity := all.find? (·.word == s)

@[simp] theorem ofWord?_word (q : Quantity) : ofWord? q.word = some q := by cases q <;> rfl

def count (g : Game) (p : Player) (measure : Side → Nat) : Except Fault Operand :=
  (g.side p).map fun s => .int (measure s)

/-- The value of a quantity. Without a source card its quantities are zero. -/
def value (ctx : Context) : Quantity → Except Fault Operand
  | sourcePower => .ok (.int ((ctx.source.map (ctx.game.effectivePower ctx.bonus)).getD 0))
  | sourceCost => .ok (.int ((ctx.source.map (·.cost)).getD 0))
  | sourceDon => .ok (.int ((ctx.source.map (·.givenDon.length)).getD 0))
  | turn => .ok ((ctx.game.turn.map .int).getD (.other .null))
  | phase => .ok (.text ctx.game.phase.name)
  | controllerHand => count ctx.game ctx.controller (·.hand.length)
  | controllerLife => count ctx.game ctx.controller (·.life.length)
  | controllerDon => count ctx.game ctx.controller (·.donInPlay)
  | controllerActiveDon => count ctx.game ctx.controller (·.activeDon.length)
  | controllerCharacters => count ctx.game ctx.controller (·.characters.length)
  | opponentHand => count ctx.game ctx.controller.opponent (·.hand.length)
  | opponentLife => count ctx.game ctx.controller.opponent (·.life.length)
  | opponentCharacters => count ctx.game ctx.controller.opponent (·.characters.length)

end Quantity

namespace Operand

/-- The value of an operand. An infinite number has none; what is no number stays so. -/
def value (ctx : Context) : Operand → Except Fault Operand
  | int n => .ok (int n)
  | other (.bool b) => .ok (other (.bool b))
  | other (.real literal) =>
    match (Json.Double.ofLiteral literal).wholePart? with
    | some n => .ok (int n)
    | none =>
      if literal == "NaN" then .ok (other (.real literal)) else .error .outOfRange
  | other _ => .error .wrongType
  | text s =>
    match Quantity.ofWord? s with
    | some q => q.value ctx
    | none =>
      match Text.readInteger s.toList with
      | .ok n => .ok (int n)
      | .error _ => .ok (text s)

/-- The number that a value counts as; a yes is one, a no is zero. -/
def number? : Operand → Option Int
  | int n => some n
  | other (.bool b) => some b.toNat
  | _ => none

end Operand

namespace Comparison

def holdsNumbers : Comparison → Int → Int → Bool
  | eq, m, n => m == n
  | neq, m, n => m != n
  | gt, m, n => n < m
  | lt, m, n => m < n
  | gte, m, n => n ≤ m
  | lte, m, n => m ≤ n

def holdsTexts : Comparison → String → String → Bool
  | eq, s, t => s == t
  | neq, s, t => s != t
  | gt, s, t => t < s
  | lt, s, t => s < t
  | gte, s, t => !(s < t)
  | lte, s, t => !(t < s)

/-- Comparing values. Those of different kinds are different and not in order, and what is no
number is different from everything. -/
def holds (op : Comparison) (a b : Operand) : Bool :=
  match a.number?, b.number?, a, b with
  | some m, some n, _, _ => op.holdsNumbers m n
  | _, _, .text s, .text t => op.holdsTexts s t
  | _, _, .other .null, .other .null => op == eq
  | _, _, _, _ => op == neq

end Comparison

end CardRules

import CardRules.Ability.Basic
import CardRules.Text.Case

/-!
# Cards and DON!!

A card has a printed face, and while it is in a game an owner, a controller, a place, an
orientation, modifiers and attached DON!!. `Card.power`, `Card.cost` and `Card.keywords` are
the printed values with the modifiers counted in.
-/

namespace CardRules

structure CardFace where
  /-- The card number. -/
  id : String
  name : String
  category : Category
  colors : List String := []
  typeTags : List String := []
  attributes : List String := []
  basePower : Option Int := none
  baseCost : Option Int := none
  life : Option Int := none
  counter : Option Int := none
  keywords : List String := []
  abilities : List Ability := []
  deriving Repr, Inhabited

namespace CardFace

def ability? (face : CardFace) (id : String) : Option Ability :=
  face.abilities.find? (·.id == id)

def printedCost (face : CardFace) : Int := face.baseCost.getD 0

def printedPower (face : CardFace) : Int := face.basePower.getD 0

end CardFace

/-- The amount a modifier adds, or the keyword it grants. A yes adds one. -/
inductive ModifierValue where
  | amount (n : Int)
  | word (s : String)
  | flag (b : Bool)
  | nothing
  deriving DecidableEq, Repr, Inhabited

/-- A change that stays on a card for a while, with the id of the card it came from. -/
structure Modifier where
  kind : ModifierKind
  value : ModifierValue
  duration : Duration
  source : String
  deriving DecidableEq, Repr, Inhabited

namespace Modifier

def amountFor (kind : ModifierKind) (m : Modifier) : Int :=
  match m.value with
  | .amount n => if m.kind = kind then n else 0
  | .flag b => if m.kind = kind then b.toNat else 0
  | .word _ | .nothing => 0

def grantedKeyword? (m : Modifier) : Option String :=
  match m.kind, m.value with
  | .keyword, .word s => some s
  | _, _ => none

end Modifier

structure Don where
  id : String
  owner : Player
  zone : Zone
  orientation : Orientation
  deriving DecidableEq, Repr, Inhabited

namespace Don

def isActive (d : Don) : Bool := d.orientation == .active

end Don

structure Card where
  id : String
  face : CardFace
  owner : Player
  controller : Player
  zone : Zone
  orientation : Orientation
  modifiers : List Modifier := []
  givenDon : List Don := []
  deriving Repr, Inhabited

namespace Card

variable (c : Card)

def isCharacter : Bool := c.face.category == .character

def onField : Bool := c.zone.isField

/-- A character that lies in the character area. -/
def isFieldCharacter : Bool := c.isCharacter && c.zone == .characterArea

def modified (kind : ModifierKind) : Int :=
  c.modifiers.foldr (fun m sum => m.amountFor kind + sum) 0

def cost : Int := c.face.printedCost + c.modified .cost

/-- The printed power with its modifiers, without attached DON!!. -/
def power : Int := c.face.printedPower + c.modified .power

/-- Printed keywords, then granted ones. -/
def keywords : List String := c.face.keywords ++ c.modifiers.filterMap (·.grantedKeyword?)

def hasKeyword (keyword : String) : Bool :=
  c.keywords.any fun k => Text.lower k == Text.lower keyword

end Card

/-- The power that an attached DON!! adds: a host's own value, or else the shared setting. -/
structure DonBonus where
  own : Option Int
  shared : Int
  deriving DecidableEq, Repr, Inhabited

namespace DonBonus

def value (b : DonBonus) : Int := b.own.getD b.shared

end DonBonus

end CardRules

import CardRules.Named

/-!
# The vocabulary of the table

Players, zones, card categories and colours, orientations and phases.
-/

namespace CardRules

inductive Player where
  | one
  | two
  deriving DecidableEq, Repr, Inhabited

namespace Player

def opponent : Player → Player
  | one => two
  | two => one

instance : Named Player where
  title := "PlayerId"
  all := [one, two]
  name
    | one => "PLAYER_1"
    | two => "PLAYER_2"

def name (p : Player) : String := Named.name p

def seat (p : Player) : String := "PlayerId." ++ p.name

end Player

inductive Zone where
  | deck
  | hand
  | trash
  | life
  | donDeck
  | costArea
  | leaderArea
  | characterArea
  | stageArea
  /-- Out of the game. -/
  | banished
  deriving DecidableEq, Repr, Inhabited

namespace Zone

instance : Named Zone where
  title := "ZoneId"
  all := [deck, hand, trash, life, donDeck, costArea, leaderArea, characterArea, stageArea,
    banished]
  name
    | deck => "DECK"
    | hand => "HAND"
    | trash => "TRASH"
    | life => "LIFE"
    | donDeck => "DON_DECK"
    | costArea => "COST_AREA"
    | leaderArea => "LEADER_AREA"
    | characterArea => "CHARACTER_AREA"
    | stageArea => "STAGE_AREA"
    | banished => "BANISHED"

def name (z : Zone) : String := Named.name z

def isField : Zone → Bool
  | leaderArea | characterArea | stageArea => true
  | _ => false

/-- Zones that hold one card at most. -/
def isSlot : Zone → Bool
  | leaderArea | stageArea => true
  | _ => false

/-- Zones that hold cards, in the order in which cards are looked up: lists first, then slots. -/
def ofCards : List Zone :=
  [deck, hand, trash, life, banished, characterArea, leaderArea, stageArea]

/-- Whether cards can be put into the zone; the other two zones hold DON!! only. -/
def holdsCards (z : Zone) : Bool := ofCards.contains z

end Zone

inductive Category where
  | leader
  | character
  | event
  | stage
  | don
  deriving DecidableEq, Repr, Inhabited

namespace Category

instance : Named Category where
  title := "CardCategory"
  all := [leader, character, event, stage, don]
  name
    | leader => "LEADER"
    | character => "CHARACTER"
    | event => "EVENT"
    | stage => "STAGE"
    | don => "DON"

def name (c : Category) : String := Named.name c

end Category

inductive Color where
  | red
  | green
  | blue
  | purple
  | black
  | yellow
  deriving DecidableEq, Repr, Inhabited

namespace Color

instance : Named Color where
  title := "Color"
  all := [red, green, blue, purple, black, yellow]
  name
    | red => "RED"
    | green => "GREEN"
    | blue => "BLUE"
    | purple => "PURPLE"
    | black => "BLACK"
    | yellow => "YELLOW"

def name (c : Color) : String := Named.name c

end Color

/-- How a card or DON!! lies; `none` where that has no meaning. -/
inductive Orientation where
  | active
  | rested
  | none
  deriving DecidableEq, Repr, Inhabited

namespace Orientation

instance : Named Orientation where
  title := "CardState"
  all := [active, rested, none]
  name
    | active => "ACTIVE"
    | rested => "RESTED"
    | none => "NONE"

def name (o : Orientation) : String := Named.name o

end Orientation

inductive Phase where
  | refresh
  | draw
  | don
  | main
  | ending
  deriving DecidableEq, Repr, Inhabited

namespace Phase

instance : Named Phase where
  title := "Phase"
  all := [refresh, draw, don, main, ending]
  name
    | refresh => "REFRESH"
    | draw => "DRAW"
    | don => "DON_PHASE"
    | main => "MAIN"
    | ending => "END"

def name (p : Phase) : String := Named.name p

end Phase

end CardRules

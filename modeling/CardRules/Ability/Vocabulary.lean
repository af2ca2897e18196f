import CardRules.Named

/-!
# The vocabulary of abilities

Kinds of abilities, when they fire, and the words their parts are written with.
-/

namespace CardRules

/-- What an ability does. -/
inductive AbilityKind where
  | powerModification
  | koCharacter
  | bounceCharacter
  | banishCharacter
  | searchDeck
  | drawCards
  | discardCards
  | trashCards
  | grantKeyword
  | attachDon
  | restCharacter
  | activateCharacter
  | dealDamage
  deriving DecidableEq, Repr, Inhabited

namespace AbilityKind

instance : Named AbilityKind where
  title := "EffectType"
  all := [powerModification, koCharacter, bounceCharacter, banishCharacter, searchDeck, drawCards,
    discardCards, trashCards, grantKeyword, attachDon, restCharacter, activateCharacter, dealDamage]
  name
    | powerModification => "POWER_MODIFICATION"
    | koCharacter => "KO_CHARACTER"
    | bounceCharacter => "BOUNCE_CHARACTER"
    | banishCharacter => "BANISH_CHARACTER"
    | searchDeck => "SEARCH_DECK"
    | drawCards => "DRAW_CARDS"
    | discardCards => "DISCARD_CARDS"
    | trashCards => "TRASH_CARDS"
    | grantKeyword => "GRANT_KEYWORD"
    | attachDon => "ATTACH_DON"
    | restCharacter => "REST_CHARACTER"
    | activateCharacter => "ACTIVATE_CHARACTER"
    | dealDamage => "DEAL_DAMAGE"

def name (k : AbilityKind) : String := Named.name k

end AbilityKind

/-- How an ability comes into play. -/
inductive Timing where
  /-- Fires on its trigger. -/
  | auto
  /-- Used by its player. -/
  | activate
  /-- Always on while its card is in play. -/
  | permanent
  /-- Changes other abilities. -/
  | replacement
  deriving DecidableEq, Repr, Inhabited

namespace Timing

instance : Named Timing where
  title := "EffectTimingType"
  all := [auto, activate, permanent, replacement]
  name
    | auto => "AUTO"
    | activate => "ACTIVATE"
    | permanent => "PERMANENT"
    | replacement => "REPLACEMENT"

def name (t : Timing) : String := Named.name t

end Timing

/-- What makes an automatic ability fire. -/
inductive Trigger where
  | startOfGame
  | startOfTurn
  | startOfMain
  | whenAttacking
  | onOpponentAttack
  | onBlock
  | whenAttacked
  | onPlay
  | onKo
  | counter
  /-- A life card turned up by damage. -/
  | trigger
  | endOfBattle
  | endOfYourTurn
  | endOfOpponentTurn
  deriving DecidableEq, Repr, Inhabited

namespace Trigger

instance : Named Trigger where
  title := "TriggerTiming"
  all := [startOfGame, startOfTurn, startOfMain, whenAttacking, onOpponentAttack, onBlock,
    whenAttacked, onPlay, onKo, counter, trigger, endOfBattle, endOfYourTurn, endOfOpponentTurn]
  name
    | startOfGame => "START_OF_GAME"
    | startOfTurn => "START_OF_TURN"
    | startOfMain => "START_OF_MAIN"
    | whenAttacking => "WHEN_ATTACKING"
    | onOpponentAttack => "ON_OPPONENT_ATTACK"
    | onBlock => "ON_BLOCK"
    | whenAttacked => "WHEN_ATTACKED"
    | onPlay => "ON_PLAY"
    | onKo => "ON_KO"
    | counter => "COUNTER"
    | trigger => "TRIGGER"
    | endOfBattle => "END_OF_BATTLE"
    | endOfYourTurn => "END_OF_YOUR_TURN"
    | endOfOpponentTurn => "END_OF_OPPONENT_TURN"

def name (t : Trigger) : String := Named.name t

end Trigger

/-- How long a modifier stays on a card. -/
inductive Duration where
  | permanent
  | untilEndOfTurn
  | untilEndOfBattle
  | untilStartOfNextTurn
  deriving DecidableEq, Repr, Inhabited

namespace Duration

instance : Named Duration where
  title := "ModifierDuration"
  all := [permanent, untilEndOfTurn, untilEndOfBattle, untilStartOfNextTurn]
  name
    | permanent => "PERMANENT"
    | untilEndOfTurn => "UNTIL_END_OF_TURN"
    | untilEndOfBattle => "UNTIL_END_OF_BATTLE"
    | untilStartOfNextTurn => "UNTIL_START_OF_NEXT_TURN"

def name (d : Duration) : String := Named.name d

end Duration

/-- What a modifier changes. -/
inductive ModifierKind where
  | power
  | cost
  | keyword
  deriving DecidableEq, Repr, Inhabited

namespace ModifierKind

instance : Named ModifierKind where
  title := "ModifierType"
  all := [power, cost, keyword]
  name
    | power => "POWER"
    | cost => "COST"
    | keyword => "KEYWORD"

def name (k : ModifierKind) : String := Named.name k

end ModifierKind

inductive TargetKind where
  | card
  | player
  | zone
  | value
  deriving DecidableEq, Repr, Inhabited

namespace TargetKind

instance : Named TargetKind where
  title := "TargetType"
  all := [card, player, zone, value]
  name
    | card => "CARD"
    | player => "PLAYER"
    | zone => "ZONE"
    | value => "VALUE"

def name (k : TargetKind) : String := Named.name k

end TargetKind

inductive ConditionKind where
  | and
  | or
  | not
  | compare
  | hasKeyword
  | inZone
  | isColor
  | custom
  deriving DecidableEq, Repr, Inhabited

namespace ConditionKind

instance : Named ConditionKind where
  title := "ConditionType"
  all := [and, or, not, compare, hasKeyword, inZone, isColor, custom]
  name
    | and => "AND"
    | or => "OR"
    | not => "NOT"
    | compare => "COMPARE"
    | hasKeyword => "HAS_KEYWORD"
    | inZone => "IN_ZONE"
    | isColor => "IS_COLOR"
    | custom => "CUSTOM"

def name (k : ConditionKind) : String := Named.name k

end ConditionKind

inductive Comparison where
  | eq
  | neq
  | gt
  | lt
  | gte
  | lte
  deriving DecidableEq, Repr, Inhabited

namespace Comparison

instance : Named Comparison where
  title := "CompareOperator"
  all := [eq, neq, gt, lt, gte, lte]
  name
    | eq => "EQ"
    | neq => "NEQ"
    | gt => "GT"
    | lt => "LT"
    | gte => "GTE"
    | lte => "LTE"

def name (c : Comparison) : String := Named.name c

end Comparison

inductive CostKind where
  | restDon
  | trashCard
  | restCard
  | composite
  deriving DecidableEq, Repr, Inhabited

namespace CostKind

instance : Named CostKind where
  title := "CostType"
  all := [restDon, trashCard, restCard, composite]
  name
    | restDon => "REST_DON"
    | trashCard => "TRASH_CARD"
    | restCard => "REST_CARD"
    | composite => "COMPOSITE"

def name (k : CostKind) : String := Named.name k

end CostKind

end CardRules

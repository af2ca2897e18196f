import CardRules.Ability.Basic
import CardRules.Text.Pattern
import CardRules.Text.Search

/-!
# Clauses

What single clauses of card text say: a number, how long something lasts, which cards are meant.
-/

namespace CardRules.CardText

open Text

def mentions (phrase : String) (s : List Char) : Bool := contains phrase.toList s

def integer (s : List Char) : Except Fault Int :=
  match readInteger s with
  | .ok n => .ok n
  | .error e => .error (.ofInteger s e)

/-- The number that a pattern reports where it is first found. -/
def number? (p : Pattern) (s : List Char) : Except Fault (Option Int) :=
  match p.firstGroup? s with
  | none => .ok none
  | some digits => (integer digits).map some

def duration (body : List Char) : Duration :=
  let low := lowerChars body
  if mentions "during this battle" low || mentions "until end of battle" low then .untilEndOfBattle
  else if mentions "until the start of your next turn" low then .untilStartOfNextTurn
  else if mentions "during this turn" low || mentions "until end of turn" low ||
      mentions "until the end of" low then .untilEndOfTurn
  else .permanent

def maxCost (body : List Char) : Except Fault (Option Int) :=
  number? (("cost" : Pattern) ++ .gap ++ .maybe (("of" : Pattern) ++ .gap) ++ .number ++ .gap ++
    "or" ++ .gap ++ "less") body

def maxPower (body : List Char) : Except Fault (Option Int) :=
  number? (.number ++ .gap ++ "power" ++ .gap ++ "or" ++ .gap ++ "less") body

def colorWord : Pattern :=
  .edge ++
    .group (.anyOf ((Named.all : List Color).map fun c => .word (lowerChars c.name.toList))) ++
    .edge

/-- The colour that a word names, in any letter case. -/
def colorOfWord? (word : List Char) : Option Color :=
  (Named.all : List Color).find? fun c => lowerChars c.name.toList == lowerChars word

/-- The colours that the text names, each once. -/
def colors (body : List Char) : List Color :=
  ((colorWord.findAll none body).filterMap colorOfWord?).eraseDups

def categories (low : List Char) : List Category :=
  [("leader", Category.leader), ("character", .character), ("stage", .stage),
    ("event", .event)].filterMap fun (w, c) => if mentions w low then some c else none

/-- A zone that cards are taken from ("from your hand"). -/
def sourceZone : Pattern :=
  .edge ++ .either "from" "in" ++ .space ++
    .maybe (.anyOf [
      ("your" : Pattern) ++ .space ++ "opponent's" ++ .space, ("your" : Pattern) ++ .space,
      ("their" : Pattern) ++ .space, ("the" : Pattern) ++ .space,
      ("its" : Pattern) ++ .space ++ "owner's" ++ .space]) ++
    .group (.anyOf ["hand", "deck", "trash"]) ++ .edge

/-- The zone that a word names. A word with a long s is none of these. -/
def zoneOfWord (word : List Char) : Except Fault Zone :=
  match [("hand", Zone.hand), ("deck", .deck), ("trash", .trash)].lookup
      (String.ofList (lowerChars word)) with
  | some z => .ok z
  | none => .error .missingKey

def sourceZones (body : List Char) : Except Fault (List Zone) :=
  ((sourceZone.findAll none body).mapM zoneOfWord).map (·.eraseDups)

/-- The field zones of the categories, for a text that names no zone. -/
def fieldZones (cs : List Category) : List Zone :=
  [(Category.leader, Zone.leaderArea), (.character, .characterArea), (.stage, .stageArea)].filterMap
    fun (c, z) => if cs.contains c then some z else none

structure Targeting where
  count : Int
  min : Int
  max : Int
  filter : TargetFilter
  deriving Repr, Inhabited

namespace Targeting

/-- How many targets a text asks for ("up to 2", "2 of your"), with the least and the greatest
number. -/
def bounds (body : List Char) : Except Fault (Int × Int × Int) := do
  match ← number? (("up" : Pattern) ++ .gap ++ "to" ++ .gap ++ .number) body with
  | some n => pure (n, 0, n)
  | none =>
    match ← number? (.number ++ .gap ++ "of" ++ .gap ++ .either "your" "opponent") body with
    | some n => pure (n, n, n)
    | none => pure (1, 1, 1)

/-- Whose cards a text means. -/
def controller (low : List Char) : Option String :=
  if mentions "your opponent" low || mentions "opponent's" low then some "opponent"
  else if mentions "your" low then some "self"
  else none

def ofText (body : List Char) : Except Fault Targeting := do
  let low := lowerChars body
  let (count, min, max) ← bounds body
  let cats := categories low
  let named ← sourceZones body
  let cost ← maxCost body
  let power ← maxPower body
  pure {
    count := count, min := min, max := max,
    filter := {
      controller := controller low,
      zone := if named.isEmpty then fieldZones cats else named,
      category := cats,
      color := colors body,
      costRange := cost.map .atMost,
      powerRange := power.map .atMost } }

def parameters (t : Targeting) : Parameters :=
  { targetType := some .card, targetCount := some t.count, minTargets := some t.min,
    maxTargets := some t.max, targetFilter := some t.filter }

end Targeting

def typeTag : Pattern :=
  .one (· == '\x7b') ++ .group (.run1 (· != '\x7d')) ++ .one (· == '\x7d')

def searchCriteria (body : List Char) : Except Fault SearchCriteria := do
  let low := lowerChars body
  let cost ← maxCost body
  let power ← maxPower body
  pure {
    category := ([("character", Category.character), ("event", .event), ("stage", .stage)].find?
      (mentions ·.1 low)).toList.map (·.2),
    color := (colors body).take 1,
    cost := cost.map .atMost,
    power := power.map .atMost,
    typeTags := (typeTag.findAll none body).map fun t => String.ofList (trim t) }

end CardRules.CardText

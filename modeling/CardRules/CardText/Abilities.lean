import CardRules.CardText.Requirement
import CardRules.CardText.Rule
import CardRules.CardText.Segment

/-!
# Abilities in card text

The abilities that the text of a card describes, in the order of the text. A segment that
cannot be read is left out. A DON!! label without text of its own ("[DON!! x1] [When
Attacking] …") puts its condition on the next segment that is read.
-/

namespace CardRules.CardText

open Text

/-- The ability of one segment; a keyword label has none. -/
def readSegment (rules : List Rule) (cardId : String) (index : Int) (pendingDon : Option Int)
    (t : Segment) : Except Fault (Option Ability) :=
  if Label.isKeyword t.label then .ok none
  else if t.unlimited.isEmpty then
    .error (.unreadableSegment (some "Label without effect text") (some cardId)
      (some (String.ofList t.label)))
  else do
    let (timing, trigger) ← Label.timing t.label
    let required ← match t.donDigits? with
      | some digits => (integer digits).map some
      | none => pure pendingDon
    let (cost, body) ← splitCost t.unlimited
    let (conditions, body) ← splitConditions body
    let (_, kind, parameters) ← classify rules body
    pure (some {
      id := cardId ++ "-effect-" ++ toString index, sourceId := cardId,
      label := String.ofList t.label, timing := timing, kind := kind, trigger := trigger,
      condition := combined ((required.map hasDon).toList ++ conditions), cost := cost,
      parameters := parameters, oncePerTurn := t.isOncePerTurn })

/-- The DON!! requirement of a label that stands without text. -/
def loneDon? (t : Segment) : Option (List Char) :=
  if t.unlimited.isEmpty then t.donDigits? else none

def readSegments (rules : List Rule) (cardId : String) :
    (index : Nat) → (pendingDon : Option Int) → List Segment → List Ability
  | _, _, [] => []
  | index, pendingDon, t :: rest =>
    match loneDon? t with
    | some digits =>
      match integer digits with
      | .ok n => readSegments rules cardId (index + 1) (some n) rest
      | .error _ => readSegments rules cardId (index + 1) pendingDon rest
    | none =>
      match readSegment rules cardId index pendingDon t with
      | .ok found => found.toList ++ readSegments rules cardId (index + 1) none rest
      | .error _ => readSegments rules cardId (index + 1) pendingDon rest

def abilities (rules : List Rule) (cardId : String) (text : String) : List Ability :=
  readSegments rules cardId 0 none (Segment.ofText text.toList)

end CardRules.CardText

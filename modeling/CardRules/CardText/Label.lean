import CardRules.Ability.Vocabulary
import CardRules.Text.Pattern

/-!
# Labels

Labels in brackets, such as `[On Play]`, divide card text. A label says when the text behind
it comes into play; a keyword label, such as `[Blocker]`, is complete by itself.

- `anyLabel` is the pattern of a label, `donLabel` of one that asks for attached DON!!.
- `Label.timing` is what a label means.
-/

namespace CardRules.CardText

open Text

def inBrackets (p : Pattern) : Pattern := ("[" : Pattern) ++ p ++ ("]" : Pattern)

def anyLabel : Pattern := inBrackets (.anyOf [
  "on play", "when attacking", "when attacked", "on k.o.",
  ("activate:" : Pattern) ++ .gap ++ "main",
  ("don!!" : Pattern) ++ .gap ++ "x" ++ .run1 isDigit, "end of your turn", "start of your turn",
  "on block", "on your opponent's attack", "trigger", "counter", "blocker", "rush", "double attack",
  "banish"])

/-- The limit on the number of uses, which stands inside the text of a segment. -/
def oncePerTurn : Pattern := inBrackets "once per turn"

/-- A label that asks for attached DON!!; it reports their number. -/
def donLabel : Pattern := inBrackets (("don!!" : Pattern) ++ .gap ++ "x" ++ .number)

namespace Label

/-- Every stretch of blanks as one space. -/
def singleSpaced : List Char → List Char
  | [] => []
  | c :: rest =>
    if isBlank c then
      if rest.head?.any isBlank then singleSpaced rest else ' ' :: singleSpaced rest
    else c :: singleSpaced rest

/-- The words of a label: without brackets, in lower case, with single spaces. -/
def words (text : List Char) : String :=
  String.ofList (singleSpaced (lowerChars (trim (dropEnds (fun c => c == '[' || c == ']') text))))

def keywords : List String := ["blocker", "rush", "double attack", "banish"]

def isKeyword (text : List Char) : Bool := keywords.contains (words text)

def triggers : List (String × Trigger) := [
  ("on play", .onPlay),
  ("when attacking", .whenAttacking),
  ("when attacked", .whenAttacked),
  ("on k.o.", .onKo),
  ("end of your turn", .endOfYourTurn),
  ("start of your turn", .startOfTurn),
  ("on block", .onBlock),
  ("on your opponent's attack", .onOpponentAttack),
  ("trigger", .trigger),
  ("counter", .counter)]

def timing (text : List Char) : Except Fault (Timing × Option Trigger) :=
  let w := words text
  if "activate".toList.isPrefixOf w.toList then .ok (.activate, none)
  else if keywords.contains w || "don!!".toList.isPrefixOf w.toList then .ok (.permanent, none)
  else match triggers.lookup w with
    | some t => .ok (.auto, some t)
    | none =>
      let shown := String.ofList text
      .error (.unreadableSegment (some ("Unknown label " ++ shown)) none (some shown))

end Label

end CardRules.CardText

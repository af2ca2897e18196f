import CardRules.CardText.Label

/-!
# Segments

Card text is cut at its labels: each segment is a label with the text up to the next one. A
keyword label in the middle of a sentence ("gains [Rush].") is text and does not cut. Text
before the first label goes behind the text of the first segment.
-/

namespace CardRules.CardText

open Text

structure Segment where
  label : List Char
  body : List Char
  deriving DecidableEq, Repr, Inhabited

namespace Segment

/-- Whether a label cuts, when `last` is the last character before it that is not blank. -/
def cutsAfter (last : Option Char) (label : List Char) : Bool :=
  !Label.isKeyword label || last.all fun c => c == '.' || c == ']' || c == ')'

def lastInk? (s : List Char) : Option Char := (dropEnd isBlank s).getLast?

/-- The text before the first label that cuts, and the segments from there on, with their
blanks. Only the last character with ink of what stands before the text matters; it is `last`.
-/
def cut (last : Option Char) (s : List Char) : List Char × List Segment :=
  match anyLabel.find? none s with
  | none => (s, [])
  | some f =>
    let text := f.taken.text
    if f.taken.rest.length < s.length then
      let (body, more) := cut (lastInk? text) f.taken.rest
      if cutsAfter ((lastInk? f.before).or last) text then (f.before, ⟨text, body⟩ :: more)
      else (f.before ++ text ++ body, more)
    else (s, [])
  termination_by s.length

def ofText (s : List Char) : List Segment :=
  match cut none s with
  | (_, []) => []
  | (lead, first :: rest) =>
    let lead := trim lead
    let body := trim first.body
    { first with body := if lead.isEmpty then body else trim (body ++ ' ' :: lead) } ::
      rest.map fun t => { t with body := trim t.body }

def donDigits? (t : Segment) : Option (List Char) := (donLabel.whole? t.label).bind List.head?

/-- The text without its limits on the number of uses. -/
def unlimited (t : Segment) : List Char := trim (oncePerTurn.erase none t.body)

def isOncePerTurn (t : Segment) : Bool := (oncePerTurn.find? none t.body).isSome

end Segment

end CardRules.CardText

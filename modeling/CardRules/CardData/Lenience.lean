import CardRules.CardData.Value
import CardRules.Json.Double
import CardRules.Text.Search

/-!
# The standard lenience

Numbers and switches may be written as texts or, where they are whole, with a fraction.
-/

namespace CardRules.CardData

open Text

def startsInteger (c : Char) : Bool := c == '-' || ('1' ≤ c && c ≤ '9')

/-- What follows zeros, and underscores between them, that stand in front of an integer. The last
of them, `last`, stays where nothing or a fraction follows. -/
def afterZeros (last : Char) : List Char → Option (List Char)
  | [] => some [last]
  | c :: rest =>
    if c == '0' || c == '_' then afterZeros c rest
    else if startsInteger c then some (c :: rest)
    else if c == '.' then some (last :: c :: rest)
    else none

def withoutZeros : List Char → Option (List Char)
  | [] => none
  | c :: rest =>
    if c == '0' then afterZeros c rest else if startsInteger c then some (c :: rest) else none

def withoutFraction (s : List Char) : List Char :=
  let whole := s.takeWhile (· != '.')
  match s.drop whole.length with
  | '.' :: '0' :: more => if more.all (· == '0') then whole else s
  | _ => s

def strayUnderscore (s : List Char) : Bool :=
  s.head? == some '_' || s.getLast? == some '_' || contains ['_', '_'] s

/-- An integer text brought to its plain form: without margins, plus sign, zeros on either side of
a minus sign, a fraction of zeros and underscores between digits. -/
def plainInteger (s : List Char) : Option (List Char) := do
  let s := dropEnds isMargin s
  let s ← match s with
    | '+' :: '-' :: _ => none
    | '+' :: rest => some rest
    | _ => some s
  let s ← withoutZeros s
  let s ← match s with
    | '-' :: rest => (withoutZeros rest).map ('-' :: ·)
    | _ => some s
  let s := withoutFraction s
  pure (if strayUnderscore s then s else s.filter (· != '_'))

/-- Whether a text is an integer in plain form: digits without a zero in front, perhaps
negative. -/
def isPlain (s : List Char) : Bool :=
  let digits := if s.head? == some '-' then s.drop 1 else s
  !digits.isEmpty && digits.all Json.isPlainDigit &&
    (digits.length == 1 || digits.head? != some '0')

/-- Whether a text begins with an integer in plain form that is too long, whatever follows it. -/
def startsTooLong (s : List Char) : Bool :=
  let sign := if s.head? == some '-' then 1 else 0
  let digits := (s.drop sign).takeWhile Json.isPlainDigit
  digits.head? != some '0' && digitLimit < sign + digits.length

def plainValue (s : List Char) : Int :=
  match s with
  | '-' :: digits => -(digitsValue digits : Int)
  | digits => digitsValue digits

/-- An integer written as a text: in plain form, or in one that can be brought to it. -/
def integerText (s : List Char) : Checked Int :=
  if startsTooLong s then .bad .intParsingSize
  else if isPlain s then .valid (plainValue s)
  else
    match plainInteger s with
    | some t =>
      if isPlain t && t.length ≤ digitLimit then .valid (plainValue t) else .bad .intParsing
    | none => .bad .intParsing

def wordBound : Nat := 1 <<< 63

def integerReal (literal : String) : Checked Int :=
  match Json.Double.ofLiteral literal with
  | .notFinite => .bad .finiteNumber
  | d =>
    match d.toInt? with
    | none => .bad .intFromFloat
    | some n => if n.natAbs < wordBound then .valid n else .bad .intParsingSize

def lenientInteger : Json → Checked Int
  | .int n => .valid n
  | .bool b => .valid (if b then 1 else 0)
  | .str s => integerText s.toList
  | .brokenStr _ => .bad .stringUnicode
  | .real literal => integerReal literal
  | _ => .bad .intType

def lenientText : Json → Checked String
  | .str s => .valid s
  | .brokenStr _ => .bad .stringUnicode
  | _ => .bad .stringType

def switchWord? (s : String) : Option Bool :=
  let w := s.toList.map Char.toLower
  if ["1", "t", "true", "y", "yes", "on"].any (·.toList == w) then some true
  else if ["0", "f", "false", "n", "no", "off"].any (·.toList == w) then some false
  else none

def switchInteger (n : Int) : Checked Bool :=
  if n = 0 then .valid false
  else if n = 1 then .valid true
  else if -(wordBound : Int) ≤ n ∧ n < wordBound then .bad .boolParsing
  else .bad .boolType

def lenientSwitch : Json → Checked Bool
  | .bool b => .valid b
  | .int n => switchInteger n
  | .str s => match switchWord? s with
    | some b => .valid b
    | none => .bad .boolParsing
  | .brokenStr _ => .bad .stringUnicode
  | .real literal => match integerReal literal with
    | .valid n => switchInteger n
    | .invalid _ => .bad .boolType
  | _ => .bad .boolType

/-- Records nest up to 255 levels. -/
def Lenience.standard : Lenience where
  text := lenientText
  integer := lenientInteger
  switch := lenientSwitch
  deepest := 255
  text_str _ := rfl
  integer_int _ := rfl
  switch_bool _ := rfl
  two_le_deepest := by decide

end CardRules.CardData

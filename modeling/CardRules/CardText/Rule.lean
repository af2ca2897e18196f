import CardRules.CardText.Clause

/-!
# Rules

What a text does is decided by an ordered table of rules: the first rule that applies to the
text in lower case reads its parameters. A text to which no rule applies counts as a change
of power without parameters.
-/

namespace CardRules.CardText

open Text

abbrev Reading := AbilityKind × Parameters

def targets (body : List Char) : Except Fault Parameters :=
  (Targeting.ofText body).map (·.parameters)

def signedPower : Pattern :=
  .group (.one (fun c => c == '+' || c == '-' || c == '−') ++ .gap ++ .run1 isDigit) ++ .gap ++
    "power"

def powerChange (body : List Char) : Except Fault (Option Int) :=
  match signedPower.firstGroup? body with
  | none => .ok none
  | some s => (integer ((s.map fun c => if c == '−' then '-' else c).filter (· != ' '))).map some

def readPowerModification (body : List Char) : Except Fault Reading := do
  let change ← powerChange body
  let ps ← targets body
  pure (.powerModification, { ps with powerChange := change, duration := some (duration body) })

def readKo (body : List Char) : Except Fault Reading := do
  let power ← maxPower body
  let cost ← maxCost body
  let ps ← targets body
  pure (.koCharacter, { ps with maxPower := power, maxCost := cost })

def readBounce (body : List Char) : Except Fault Reading := do
  let cost ← maxCost body
  let ps ← targets body
  pure (.bounceCharacter, { ps with maxCost := cost })

def readBanish (body : List Char) : Except Fault Reading := do
  let cost ← maxCost body
  let power ← maxPower body
  let ps ← targets body
  pure (.banishCharacter, { ps with maxCost := cost, maxPower := power })

/-- How many cards are looked at; zero says nothing. -/
def searchDepth (body : List Char) : Except Fault Int := do
  let top ← number? (("top" : Pattern) ++ .gap ++ .number) body
  if top.any (· != 0) then pure (top.getD 1)
  else
    let cards ← number? (.number ++ .gap ++ "card") body
    pure (if cards.any (· != 0) then cards.getD 1 else 1)

def readSearch (body : List Char) : Except Fault Reading := do
  let depth ← searchDepth body
  let pick ← number?
    (.either "reveal" "add" ++ .gap ++ "up" ++ .gap ++ "to" ++ .gap ++ .number) body
  let criteria ← searchCriteria body
  pure (.searchDeck,
    { cardCount := some depth, searchCriteria := some criteria, minTargets := some 0,
      maxTargets := some (pick.getD 1) })

def readDraw (body : List Char) : Except Fault Reading := do
  let n ← number? (("draw" : Pattern) ++ .gap ++ .number) body
  pure (.drawCards, { cardCount := some (n.getD 1) })

def readDiscard (body : List Char) : Except Fault Reading := do
  let n ← number? (("discard" : Pattern) ++ .gap ++ .number) body
  pure (.discardCards, { cardCount := some (n.getD 1) })

def readTrash (body : List Char) : Except Fault Reading := do
  let n ← number? (("trash" : Pattern) ++ .gap ++
    .maybe (("up" : Pattern) ++ .gap ++ "to" ++ .gap) ++ .number) body
  let ps ← targets body
  pure (.trashCards, { ps with cardCount := some (n.getD 1) })

def readRest (body : List Char) : Except Fault Reading := do
  let ps ← targets body
  pure (.restCharacter, ps)

def readActivate (body : List Char) : Except Fault Reading := do
  let ps ← targets body
  pure (.activateCharacter, ps)

def readAttachDon (body : List Char) : Except Fault Reading := do
  let n ← number? (.number ++ .gap ++
    .maybe (.either (("rested" : Pattern) ++ .gap) (("active" : Pattern) ++ .gap)) ++ "don") body
  let ps ← targets body
  pure (.attachDon, { ps with value := some (n.getD 1) })

def readDamage (body : List Char) : Except Fault Reading := do
  let n ← number? (.number ++ .gap ++ "damage") body
  pure (.dealDamage, { value := some (n.getD 1), targetType := some .player })

/-- The keyword that a text grants, of several the first in this order. -/
def grantedKeyword (low : List Char) : Option String :=
  ["Double Attack", "Rush", "Blocker", "Banish"].find? fun k => mentions (lower k) low

def readKeywordGrant (body : List Char) : Except Fault Reading := do
  let ps ← targets body
  let keyword := grantedKeyword (lowerChars body)
  pure (.grantKeyword, { ps with keyword := keyword, duration := some (duration body) })

/-- A way to read texts, for those to which it applies. -/
structure Rule where
  name : String
  /-- Looks at the text in lower case. -/
  applies : List Char → Bool
  build : List Char → Except Fault Reading

namespace Rule

def builderName (r : Rule) : String := "build_" ++ r.name

def mentionsAll (phrases : List String) (low : List Char) : Bool := phrases.all (mentions · low)

def mentionsAny (phrases : List String) (low : List Char) : Bool := phrases.any (mentions · low)

def restWord : Pattern := .edge ++ .exactly "rest".toList ++ .edge

/-- The rules in the order in which they are tried. -/
def standard : List Rule := [
  ⟨"power_modification",
    fun b => mentions "give" b &&
      (mentions "power" b || (mentionsAny ["+", "-"] b && !mentions "don!!" b)),
    readPowerModification⟩,
  ⟨"ko", mentionsAll ["k.o."], readKo⟩,
  ⟨"bounce", mentionsAll ["return", "hand"], readBounce⟩,
  ⟨"banish", mentionsAll ["remove", "from the game"], readBanish⟩,
  ⟨"search", fun b => mentions "search" b || mentionsAll ["look at", "deck"] b, readSearch⟩,
  ⟨"draw", mentionsAll ["draw"], readDraw⟩,
  ⟨"discard", mentionsAll ["discard"], readDiscard⟩,
  ⟨"trash", mentionsAll ["trash"], readTrash⟩,
  ⟨"rest", fun b => (restWord.find? none b).isSome && mentions "character" b, readRest⟩,
  ⟨"activate", fun b => mentionsAny ["activate", "as active"] b && mentions "character" b,
    readActivate⟩,
  ⟨"attach_don", fun b => mentionsAny ["attach", "give"] b && mentions "don" b, readAttachDon⟩,
  ⟨"damage", mentionsAll ["deal", "damage"], readDamage⟩,
  ⟨"keyword_grant",
    fun b => mentions "gain" b && mentionsAny ["rush", "blocker", "double attack", "banish"] b,
    readKeywordGrant⟩]

def named? (name : String) : Option Rule := standard.find? (·.name == name)

end Rule

/-- The rule that applies to a text and what it reads there. -/
def classify (rules : List Rule) (body : List Char) :
    Except Fault (Option String × Reading) :=
  let low := lowerChars body
  match rules.find? (·.applies low) with
  | some r => (r.build body).map fun reading => (some r.name, reading)
  | none => .ok (none, .powerModification, {})

end CardRules.CardText

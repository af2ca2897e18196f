import CardRules.CardText.Clause

/-!
# Costs and conditions in card text

A text may begin with what its ability costs ("rest 1 DON!!:") and say on which condition it
works ("If you have 3 or more Characters,"). `splitCost` and `splitConditions` lift these
clauses off.
-/

namespace CardRules.CardText

open Text

/-- The circled digits from 1 to 10, which stand for DON!! to rest, in both of their series. -/
def circledDigits : List (Char × Nat) :=
  [0x2460, 0x2780].flatMap fun base => (List.range 10).map fun i => (Char.ofNat (base + i), i + 1)

/-- The sum of the circled digits that occur; one that occurs twice counts once. -/
def circledSum (s : List Char) : Nat :=
  circledDigits.foldr (fun (c, n) sum => if s.contains c then n + sum else sum) 0

def costClauses : List (Pattern × CostKind) := [
  (("rest" : Pattern) ++ .gap ++ .number ++ .gap ++
    .maybe (("of" : Pattern) ++ .gap ++ "your" ++ .gap) ++ "don", .restDon),
  (("trash" : Pattern) ++ .gap ++ .number ++ .gap ++ "card" ++ .maybe "s" ++ .gap ++ "from" ++
    .gap ++ "your" ++ .gap ++ "hand", .trashCard),
  (("rest" : Pattern) ++ .gap ++ .number ++ .gap ++ "of" ++ .gap ++ "your" ++ .gap ++ "character",
    .restCard)]

def namedCosts (s : List Char) : List (Pattern × CostKind) → Except Fault (List Cost)
  | [] => .ok []
  | (p, kind) :: rest => do
    let amount ← number? p s
    let more ← namedCosts s rest
    pure ((amount.map fun n => { kind := kind, amount := n }).toList ++ more)

def cost (s : List Char) : Except Fault (Option Cost) := do
  let named ← namedCosts s costClauses
  let circled := circledSum s
  match (if circled = 0 then [] else [Cost.restDon circled]) ++ named with
  | [] => pure none
  | [c] => pure (some c)
  | cs => pure (some (.composite cs))

/-- The longest text before a colon that can be a cost. -/
def costLength : Nat := 120

def splitCost (body : List Char) : Except Fault (Option Cost × List Char) :=
  let head := body.takeWhile (· != ':')
  match body.dropWhile (· != ':') with
  | [] => .ok (none, body)
  | _ :: rest =>
    if costLength < head.length then .ok (none, body)
    else (cost head).map fun
      | some c => (some c, trim rest)
      | none => (none, body)

structure ConditionClause where
  pattern : Pattern
  quantity : String
  comparison : Comparison

/-- At most one mark out of those that end a clause. -/
def clauseEnd : Pattern := .maybe (.one fun c => c == ',' || c == '.')

/-- The clauses that name a condition, in the order in which they are lifted off. -/
def conditionClauses : List ConditionClause := [
  ⟨("if you have " : Pattern) ++ .number ++ " or more don!! card" ++ .maybe "s" ++
    .run (fun c => c != ',' && c != '.') ++ clauseEnd, "controller.don", .gte⟩,
  ⟨("if you have " : Pattern) ++ .number ++ " or " ++ .either "less" "fewer" ++ " card" ++
    .maybe "s" ++ " in your hand" ++ clauseEnd, "controller.hand", .lte⟩,
  ⟨("if you have " : Pattern) ++ .number ++ " or " ++ .either "less" "fewer" ++ " life card" ++
    .maybe "s" ++ clauseEnd, "controller.life", .lte⟩,
  ⟨("if your opponent has " : Pattern) ++ .number ++ " or more character" ++ .maybe "s" ++
    clauseEnd, "opponent.characters", .gte⟩,
  ⟨("if you have " : Pattern) ++ .number ++ " or more character" ++ .maybe "s" ++ clauseEnd,
    "controller.characters", .gte⟩]

def liftConditions : List ConditionClause → List Char →
    Except Fault (List Condition × List Char)
  | [], body => .ok ([], body)
  | clause :: rest, body =>
    match clause.pattern.find? none body with
    | none => liftConditions rest body
    | some f => do
      let n ← integer (f.taken.groups.headD [])
      let (more, body) ← liftConditions rest (trim (f.before ++ f.taken.rest))
      pure (.compare (.text clause.quantity) clause.comparison (.int n) :: more, body)

def splitConditions (body : List Char) : Except Fault (List Condition × List Char) :=
  liftConditions conditionClauses body

def hasDon (n : Int) : Condition := .compare (.text "source.don") .gte (.int n)

def combined : List Condition → Option Condition
  | [] => none
  | [c] => some c
  | cs => some (.all cs)

end CardRules.CardText

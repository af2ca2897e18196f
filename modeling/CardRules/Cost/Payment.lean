import CardRules.Game.Update

/-!
# Paying costs

`Cost.canPay` tells whether a player can afford a cost, `Cost.pay` gives the game with the
cost taken off. The parts of a composite cost may draw on one pool, so each is checked in
the game that the parts before it leave behind.
-/

namespace CardRules.Cost

def available (g : Game) (who : Player) (kind : CostKind) : Except Fault Int :=
  (g.side who).map fun s =>
    match kind with
    | .restDon => s.activeDon.length
    | .trashCard => s.hand.length
    | .restCard => s.characters.countP (·.orientation == .active)
    | .composite => 0

def restCards (g : Game) : List String → Except Fault Game
  | [] => .ok g
  | id :: rest => do
    let g ← g.updateCard id fun c => { c with orientation := .rested }
    restCards g rest

/-- Takes a simple cost off: the first DON!!, hand cards or characters that will do. -/
def debitSimple (g : Game) (who : Player) (kind : CostKind) (amount : Int) : Except Fault Game :=
  match kind with
  | .restDon => g.restDon who amount
  | .trashCard => do
    let side ← g.side who
    g.moveCards .trash ((firstItems amount side.hand).map (·.id))
  | .restCard => do
    let side ← g.side who
    let active := side.characters.filter (·.orientation == .active)
    restCards g ((firstItems amount active).map (·.id))
  | .composite => .ok g

mutual
/-- Takes a cost off, part by part. Affordability is checked elsewhere. -/
def debit (who : Player) : Cost → Game → Except Fault Game
  | ⟨kind, amount, parts⟩, g =>
    match kind with
    | .composite => debitAll who parts g
    | kind => debitSimple g who kind amount

def debitAll (who : Player) : List Cost → Game → Except Fault Game
  | [], g => .ok g
  | c :: rest, g => do
    let g ← debit who c g
    debitAll who rest g
end

mutual
/-- Whether a player can afford a cost. A composite cost without parts cannot be paid. -/
def canPay (who : Player) : Cost → Game → Except Fault Bool
  | ⟨kind, amount, parts⟩, g =>
    match kind with
    | .composite => if parts.isEmpty then .ok false else canPayAll who parts g
    | kind =>
      if amount < 0 then .ok false
      else (available g who kind).map (amount ≤ ·)

/-- Whether a player can afford costs one after the other. -/
def canPayAll (who : Player) : List Cost → Game → Except Fault Bool
  | [], _ => .ok true
  | c :: rest, g => do
    let affordable ← canPay who c g
    if affordable then
      let g ← debit who c g
      canPayAll who rest g
    else pure false
end

/-- What a player has towards a cost, as the fault for an unpaid cost reports it. -/
def inHand (g : Game) (who : Player) (c : Cost) : Except Fault Int :=
  match c.kind with
  | .composite => .ok 0
  | kind => available g who kind

def pay (who : Player) (c : Cost) (g : Game) : Except Fault Game := do
  let affordable ← canPay who c g
  if affordable then debit who c g
  else
    let has ← inHand g who c
    throw (.unpaidCost (some (who.name ++ " cannot pay " ++ c.kind.name)) (some c.kind.name)
      c.amount has)

end CardRules.Cost

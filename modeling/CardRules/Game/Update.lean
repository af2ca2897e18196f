import CardRules.Game.Basic

/-!
# Changes to a game

Each operation gives a new game or a fault; what it does not touch stays. A card goes to its
owner's side off the field and to its controller's side on the field. A card that leaves the
field loses its modifiers and its orientation, and its DON!! go back rested to the cost
areas of their owners.
-/

namespace CardRules

/-- The first `n` items; a negative `n` counts the items left out at the end. -/
def firstItems {α : Type} (n : Int) (xs : List α) : List α :=
  if 0 ≤ n then xs.take n.toNat else xs.take (xs.length - (-n).toNat)

theorem firstItems_natCast {α : Type} (n : Nat) (xs : List α) : firstItems n xs = xs.take n := by
  simp [firstItems]

theorem firstItems_prefix {α : Type} (n : Int) (xs : List α) : firstItems n xs <+: xs := by
  unfold firstItems
  split <;> exact List.take_prefix _ _

theorem length_firstItems {α : Type} (n : Int) (xs : List α) :
    ((firstItems n xs).length : Int) =
      if 0 ≤ n then min n xs.length else max 0 (xs.length + n) := by
  unfold firstItems
  split
  · rw [List.length_take]
    omega
  · rw [List.length_take]
    omega

namespace Game

def updateCard (g : Game) (id : String) (change : Card → Card) : Except Fault Game :=
  match g.locate? id with
  | none => .error (.noCard none (some id))
  | some found => do
    let side ← g.seatedSide found.player
    let cards := (side.cards found.zone).map fun c => if c.id == id then change found.card else c
    let side ← side.withCards found.zone cards
    pure (g.setSide side)

def addModifier (g : Game) (id : String) (m : Modifier) : Except Fault Game :=
  g.updateCard id fun c => { c with modifiers := c.modifiers ++ [m] }

/-- The game with the given DON!! laid rested into the cost areas of their owners, one by one. -/
def returnDon (g : Game) : List Don → Except Fault Game
  | [] => .ok g
  | d :: rest => do
    let side ← g.seatedSide d.owner
    let back := { d with zone := .costArea, orientation := .rested }
    (g.setSide { side with costArea := side.costArea ++ [back] }).returnDon rest

/-- The game with the DON!! of a card sent back, if the card leaves the field. -/
def releaseDon (g : Game) (c : Card) (origin dest : Zone) : Except Fault Game :=
  if origin.isField && !dest.isField then g.returnDon c.givenDon else .ok g

/-- A card as it arrives in a zone it came to from `origin`. -/
def arriving (c : Card) (origin dest : Zone) : Card :=
  if dest.isField then
    { c with
      zone := dest
      orientation := if origin.isField then c.orientation else .active }
  else
    { c with
      zone := dest
      orientation := .none
      modifiers := []
      givenDon := []
      controller := c.owner }

@[simp] theorem id_arriving (c : Card) (origin dest : Zone) :
    (arriving c origin dest).id = c.id := by
  unfold arriving
  split <;> rfl

@[simp] theorem zone_arriving (c : Card) (origin dest : Zone) :
    (arriving c origin dest).zone = dest := by
  unfold arriving
  split <;> rfl

/-- Moves a card to a zone: to its end (`toBottom`) or to its front. -/
def moveCard (g : Game) (id : String) (dest : Zone) (toBottom : Bool) : Except Fault Game :=
  match g.locate? id with
  | none => .error (.noCard none (some id))
  | some found => do
    let c := found.card
    let holder ← g.seatedSide found.player
    let holder ← holder.withCards found.zone ((holder.cards found.zone).filter (·.id != id))
    let g ← (g.setSide holder).releaseDon c found.zone dest
    let receiver ← g.seatedSide (if dest.isField then c.controller else c.owner)
    let arrived := arriving c found.zone dest
    let there := receiver.cards dest
    let receiver ← receiver.withCards dest
      (if toBottom then there ++ [arrived] else arrived :: there)
    pure (g.setSide receiver)

/-- Moves cards one after the other to the end of a zone. -/
def moveCards (g : Game) (dest : Zone) : List String → Except Fault Game
  | [] => .ok g
  | id :: rest => do
    let g ← g.moveCard id dest true
    g.moveCards dest rest

def activeDonCount (g : Game) (p : Player) : Except Fault Nat :=
  (g.side p).map (·.activeDon.length)

def restDon (g : Game) (p : Player) (amount : Int) : Except Fault Game := do
  let side ← g.side p
  let ids := firstItems amount (side.activeDon.map (·.id))
  if (ids.length : Int) < amount then
    throw (.badValue (p.name ++ " has only " ++ toString ids.length ++ " active DON!!"))
  let costArea := side.costArea.map fun d =>
    if ids.contains d.id then { d with orientation := .rested } else d
  pure (g.setSide { side with costArea := costArea })

/-- The DON!! of a cost area in the order in which they are given away: active ones first. -/
def donOrder (costArea : List Don) : List Don :=
  costArea.filter (·.isActive) ++ costArea.filter (!·.isActive)

theorem donOrder_perm (costArea : List Don) : (donOrder costArea).Perm costArea :=
  List.filter_append_perm _ _

/-- Gives up to `amount` DON!! of a player's cost area to a card; also tells how many. -/
def attachDon (g : Game) (p : Player) (id : String) (amount : Int) : Except Fault (Game × Nat) := do
  let side ← g.side p
  let chosen := firstItems amount (donOrder side.costArea)
  if chosen.isEmpty then return (g, 0)
  let ids := chosen.map (·.id)
  let g := g.setSide { side with costArea := side.costArea.filter (!ids.contains ·.id) }
  let given := chosen.map fun d => { d with zone := .characterArea }
  let g ← g.updateCard id fun c => { c with givenDon := c.givenDon ++ given }
  pure (g, chosen.length)

def setFlag (g : Game) (p : Player) (key : String) (value : Json) : Except Fault Game := do
  let side ← g.side p
  pure (g.setSide { side with flags := Json.setField key value side.flags })

end Game

end CardRules

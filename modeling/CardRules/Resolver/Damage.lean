import CardRules.Resolver.Basic

/-!
# Damage

Each point of damage takes the top life card of a player: to the trash when it has the
keyword Trigger, to the hand otherwise. A player who has no life card left to take is marked
as defeated.
-/

namespace CardRules

def triggerKeyword : String := "Trigger"

def Game.dealDamage (g : Game) (p : Player) : (amount : Nat) → Except Fault Game
  | 0 => .ok g
  | amount + 1 => do
    let side ← g.side p
    match side.life with
    | [] => g.setFlag p "defeated" (.bool true)
    | c :: _ =>
      let g ← g.moveCard c.id (if c.hasKeyword triggerKeyword then .trash else .hand) true
      g.dealDamage p amount

namespace Resolver

/-- The player hit through a target: a player at the table, or the controller of a leader in its
area. -/
def hitPlayer? (g : Game) : Target → Option Player
  | .player (some p) => if (g.side? p).isSome then some p else none
  | t =>
    match t.cardId?.bind g.card? with
    | some c =>
      if c.face.category == .leader && c.zone == .leaderArea then some c.controller else none
    | none => none

def damageAll (amount : Nat) : List Player → Game → Except Fault Game
  | [], g => .ok g
  | p :: rest, g => do
    let g ← g.dealDamage p amount
    damageAll amount rest g

def dealDamage : Resolver :=
  plain "DealDamageResolver" (fun _ => true) fun i g =>
    let amount := (i.ability.parameters.value.getD 0).toNat
    if amount = 0 then .ok g else damageAll amount (i.targets.filterMap (hitPlayer? g)) g

end Resolver

end CardRules

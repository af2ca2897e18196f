import CardRules.Target.Matching

/-!
# Legal targets

The cards that a filter admits for a controller, and the check of a chosen list of targets.
Targets that are not cards are counted but not constrained.
-/

namespace CardRules

namespace TargetFilter

/-- The filter that stands in for none: any character. -/
def anyCharacter : TargetFilter := { category := [.character] }

def players (f : TargetFilter) (controller : Player) : List Player :=
  let who := match f.controller with
    | some w => if w.isEmpty then "any" else w
    | none => "any"
  (if who == "self" || who == "any" then [controller] else []) ++
    (if who == "opponent" || who == "any" then [controller.opponent] else [])

/-- The zones that are searched: the field when the filter names none. -/
def zones (f : TargetFilter) : List Zone :=
  if f.zone.isEmpty then [.leaderArea, .characterArea, .stageArea] else f.zone

end TargetFilter

namespace Game

def searched (g : Game) (f : TargetFilter) (controller : Player) : List Card :=
  (f.players controller).flatMap fun p =>
    match g.side? p with
    | none => []
    | some side => f.zones.flatMap side.cards

def legalTargets (g : Game) (bonus : DonBonus) (test : CardTest) (filter : Option TargetFilter)
    (controller : Player) : List String :=
  let f := filter.getD .anyCharacter
  ((g.searched f controller).filter (Card.fits g bonus test f)).map (·.id)

end Game

namespace Target

/-- The card ids of the card targets, with those that name none. -/
def chosenCards (targets : List Target) : List (Option String) :=
  targets.filterMap fun
    | .card id => some id
    | _ => none

def hasRepeatedCard (targets : List Target) : Bool :=
  let ids := chosenCards targets
  ids.eraseDups.length != ids.length

def wellChosen (min max : Option Int) (targets : List Target) : Bool :=
  min.all (· ≤ (targets.length : Int)) && max.all ((targets.length : Int) ≤ ·) &&
  !hasRepeatedCard targets

def valid (g : Game) (bonus : DonBonus) (test : CardTest) (filter : Option TargetFilter)
    (controller : Player) (min max : Option Int) (targets : List Target) : Bool :=
  wellChosen min max targets &&
  (chosenCards targets).all fun id =>
    id.any ((g.legalTargets bonus test filter controller).contains ·)

/-- Checks a chosen list of targets. If it is well chosen, all cards that the filter searches are
looked at, and the check fails where the host's test of one of them does. -/
def check (g : Game) (bonus : DonBonus) (test : CardTest) (filter : Option TargetFilter)
    (controller : Player) (min max : Option Int) (targets : List Target) : Except Fault Bool :=
  let f := filter.getD .anyCharacter
  if wellChosen min max targets then
    match Card.testFault? g bonus test f (g.searched f controller) with
    | some fault => .error fault
    | none => .ok (valid g bonus test filter controller min max targets)
  else .ok false

end Target

end CardRules

import CardRules.Ability.Vocabulary
import CardRules.Game.Vocabulary

/-!
# Abilities

An ability is the template of what a card can do: when it fires, on which condition, at
which cost, and with which parameters. Conditions and costs are trees; targets are what a
player chose for one use.
-/

namespace CardRules

inductive Target where
  | card (id : Option String)
  | player (player : Option Player)
  | zone (zone : Zone) (player : Option Player)
  | value (value : Option Json)
  deriving Repr, Inhabited

namespace Target

def kind : Target → TargetKind
  | card _ => .card
  | player _ => .player
  | zone _ _ => .zone
  | value _ => .value

def cardId? : Target → Option String
  | card (some id) => if id.isEmpty then none else some id
  | _ => none

end Target

/-- An inclusive range of numbers; an unset bound is open. -/
structure Bounds where
  min : Option Int := none
  max : Option Int := none
  exact : Option Int := none
  deriving DecidableEq, Repr, Inhabited

namespace Bounds

def contains (b : Bounds) (n : Int) : Bool :=
  b.exact.all (n == ·) && b.min.all (· ≤ n) && b.max.all (n ≤ ·)

def atMost (n : Int) : Bounds := { max := some n }

end Bounds

/-- What to look for among cards that are being looked at. Empty fields do not constrain. -/
structure SearchCriteria where
  category : List Category := []
  color : List Color := []
  cost : Option Bounds := none
  power : Option Bounds := none
  typeTags : List String := []
  attributes : List String := []
  keywords : List String := []
  nameContains : Option String := none
  deriving Repr, Inhabited

/-- Constraints on legal targets. Empty fields do not constrain. -/
structure TargetFilter where
  /-- `self`, `opponent` or `any`; another word admits nobody. -/
  controller : Option String := none
  zone : List Zone := []
  category : List Category := []
  color : List Color := []
  costRange : Option Bounds := none
  powerRange : Option Bounds := none
  state : List Orientation := []
  hasKeyword : List String := []
  lacksKeyword : List String := []
  typeTags : List String := []
  attributes : List String := []
  /-- A host's own test: the cards that pass it. -/
  only : Option (List String) := none
  deriving Repr, Inhabited

/-- The parameters of an ability; which of them count depends on its kind. -/
structure Parameters where
  powerChange : Option Int := none
  maxPower : Option Int := none
  maxCost : Option Int := none
  cardCount : Option Int := none
  searchCriteria : Option SearchCriteria := none
  keyword : Option String := none
  targetType : Option TargetKind := none
  targetCount : Option Int := none
  minTargets : Option Int := none
  maxTargets : Option Int := none
  targetFilter : Option TargetFilter := none
  duration : Option Duration := none
  value : Option Int := none
  stringValue : Option String := none
  booleanValue : Option Bool := none
  deriving Repr, Inhabited

/-- One side of a comparison: a number, or a word that may name a quantity of the game. A value
of another kind is kept as it was given. -/
inductive Operand where
  | int (n : Int)
  | text (s : String)
  | other (value : Json)
  deriving Repr, Inhabited

/-- A test that a host supplies, by its name, and the answer or failure that is written down for
it. -/
structure Probe where
  name : String
  answer : Except String Bool
  deriving Repr, Inhabited

/-- A condition tree. Each kind reads its own fields; the others are kept as they were written. -/
structure Condition where
  kind : ConditionKind
  operands : List Condition := []
  operator : Option Comparison := none
  left : Option Operand := none
  right : Option Operand := none
  keyword : Option String := none
  zone : Option Zone := none
  color : Option String := none
  probe : Option Probe := none
  deriving Repr, Inhabited

namespace Condition

def all (cs : List Condition) : Condition := { kind := .and, operands := cs }

def compare (left : Operand) (op : Comparison) (right : Operand) : Condition :=
  { kind := .compare, operator := some op, left := some left, right := some right }

end Condition

/-- What a player pays; a composite cost is the sum of its parts. -/
structure Cost where
  kind : CostKind
  amount : Int := 0
  parts : List Cost := []
  deriving Repr, Inhabited

namespace Cost

def restDon (n : Int) : Cost := { kind := .restDon, amount := n }

def composite (parts : List Cost) : Cost := { kind := .composite, parts := parts }

end Cost

structure Ability where
  id : String
  sourceId : String
  label : String := ""
  timing : Timing
  kind : AbilityKind
  trigger : Option Trigger := none
  condition : Option Condition := none
  cost : Option Cost := none
  parameters : Parameters := {}
  oncePerTurn : Bool := false
  /-- Whether the ability starts out as used in the running turn. -/
  usedThisTurn : Bool := false
  scriptId : Option String := none
  /-- Abilities with the same mark are used up together, as on copies of one card; `none` for an
  ability that no engine has taken in. -/
  mark : Option Nat := none
  deriving Repr, Inhabited

end CardRules

import CardRules.CardText.Abilities
import CardRules.Game.Card

/-!
# Reports

Tables that show the abilities of cards and the rules that read card text.
-/

namespace CardRules

structure Report.Table where
  title : Option String
  columns : List String
  rows : List (List String)
  deriving DecidableEq, Repr, Inhabited

namespace Report

/-- The parameters of an ability in one line, those that are set, by name. -/
def parameterLine (p : Parameters) : String :=
  let number (name : String) (n : Option Int) : List String :=
    n.toList.map fun n => name ++ "=" ++ toString n
  let word (name : String) (w : Option String) : List String :=
    w.toList.map fun w => name ++ "=" ++ w
  let filter : List String := match p.targetFilter with
    | none => []
    | some f =>
      word "controller" (f.controller.filter (· != "")) ++
        (if f.category.isEmpty then []
          else ["category=" ++ "/".intercalate (f.category.map (·.name))])
  ", ".intercalate (
    number "power_change" p.powerChange ++ number "max_power" p.maxPower ++
    number "max_cost" p.maxCost ++ number "card_count" p.cardCount ++ word "keyword" p.keyword ++
    number "value" p.value ++ number "min_targets" p.minTargets ++
    number "max_targets" p.maxTargets ++ word "duration" (p.duration.map (·.name)) ++ filter)

def timingCell (a : Ability) : String :=
  match a.trigger with
  | some t => a.timing.name ++ " (" ++ t.name ++ ")"
  | none => a.timing.name

def costCell (a : Ability) : String :=
  match a.cost with
  | some c => c.kind.name ++ " " ++ toString c.amount
  | none => "-"

def abilityRow (a : Ability) : List String := [
  a.id, a.label ++ (if a.oncePerTurn then " [1/turn]" else ""), timingCell a, a.kind.name,
  costCell a, if a.condition.isSome then "yes" else "-", parameterLine a.parameters]

def abilities (title : Option String) (as : List Ability) : Table where
  title := title
  columns := ["Id", "Label", "Timing", "Type", "Cost", "Cond", "Parameters"]
  rows := as.map abilityRow

def rules (rs : List CardText.Rule) : Table where
  title := some "Parse rules (first match wins)"
  columns := ["#", "Rule", "Builder"]
  rows := rs.zipIdx.map fun (r, i) => [toString (i + 1), r.name, r.builderName]

def padded (width : Nat) (cell : String) : String :=
  cell ++ String.ofList (List.replicate (width - cell.length) ' ')

def widths (t : Table) : List Nat :=
  t.columns.zipIdx.map fun (c, i) =>
    (t.rows.map fun row => (row.getD i "").length).foldl max c.length

def lines (t : Table) : List String :=
  let line (cells : List String) : String :=
    "  ".intercalate (List.zipWith padded (widths t) cells)
  t.title.toList ++ line t.columns :: t.rows.map line

end Report

end CardRules

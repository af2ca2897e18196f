import CardRules.Ability.Basic
import CardRules.CardData.Value

/-!
# Abilities in card data

The records of abilities and their parts. A condition in card data has no test of its host,
and every part it needs; a composite cost has parts; only automatic abilities have a
trigger.
-/

namespace CardRules.CardData

variable (lax : Lenience)

def bounds (j : Json) : Checked Bounds :=
  model ["min", "max", "exact"] j
    (Bounds.mk <$> perhaps j "min" lax.integer <*> perhaps j "max" lax.integer
      <*> perhaps j "exact" lax.integer)

def sides : List String := ["self", "opponent", "any"]

def targetFilter (j : Json) : Checked TargetFilter :=
  model ["controller", "zone", "category", "color", "cost_range", "power_range", "state",
      "has_keyword", "lacks_keyword", "type_tags", "attributes"] j
    (TargetFilter.mk <$> perhaps j "controller" (oneOf sides) <*> listed j "zone" (word Zone)
      <*> listed j "category" (word Category) <*> listed j "color" (word Color)
      <*> perhaps j "cost_range" (bounds lax) <*> perhaps j "power_range" (bounds lax)
      <*> listed j "state" (word Orientation) <*> listed j "has_keyword" lax.text
      <*> listed j "lacks_keyword" lax.text <*> listed j "type_tags" lax.text
      <*> listed j "attributes" lax.text <*> pure none)

def searchCriteria (j : Json) : Checked SearchCriteria :=
  model ["category", "color", "cost", "power", "type_tags", "attributes", "keywords",
      "name_contains"] j
    (SearchCriteria.mk <$> listed j "category" (word Category) <*> listed j "color" (word Color)
      <*> perhaps j "cost" (bounds lax) <*> perhaps j "power" (bounds lax)
      <*> listed j "type_tags" lax.text <*> listed j "attributes" lax.text
      <*> listed j "keywords" lax.text <*> perhaps j "name_contains" lax.text)

def conditionKind (j : Json) : Checked ConditionKind :=
  (word ConditionKind j).obeying fun k =>
    if k = .custom then
      some "CUSTOM conditions need a predicate and cannot be loaded from data"
    else none

def conditionFlaw (c : Condition) : Option String :=
  match c.kind with
  | .not => if c.operands.length = 1 then none else some "NOT takes exactly one operand"
  | .and | .or =>
    if c.operands.isEmpty then some (c.kind.name ++ " needs at least one operand") else none
  | .compare =>
    if c.operator.isSome && c.left.isSome && c.right.isSome then none
    else some "COMPARE needs operator, left and right"
  | _ => none

/-- A condition of no more than `room` levels. -/
def conditionWithin : (room : Nat) → Json → Checked Condition
  | 0, _ => .bad .recursionLoop
  | room + 1, j =>
    (model ["type", "operands", "operator", "left", "right", "keyword", "zone", "color"] j
      (Condition.mk <$> required j "type" conditionKind
        <*> listed j "operands" (conditionWithin room)
        <*> perhaps j "operator" (word Comparison) <*> perhaps j "left" (operand lax)
        <*> perhaps j "right" (operand lax) <*> perhaps j "keyword" lax.text
        <*> perhaps j "zone" (word Zone) <*> (perhaps j "color" (word Color)).map (·.map (·.name))
        <*> pure none)).obeying conditionFlaw

def condition : Json → Checked Condition := conditionWithin lax lax.deepest

def costFlaw (c : Cost) : Option String :=
  if c.kind = .composite && c.parts.isEmpty then some "COMPOSITE cost needs at least one part"
  else none

def costWithin : (room : Nat) → Json → Checked Cost
  | 0, _ => .bad .recursionLoop
  | room + 1, j =>
    (model ["type", "amount", "costs"] j
      (Cost.mk <$> required j "type" (word CostKind) <*> field j "amount" 0 (natural lax)
        <*> listed j "costs" (costWithin room))).obeying costFlaw

def cost : Json → Checked Cost := costWithin lax lax.deepest

def parameters (j : Json) : Checked Parameters :=
  model ["power_change", "max_power", "max_cost", "card_count", "search_criteria", "keyword",
      "target_type", "target_count", "min_targets", "max_targets", "target_filter", "duration",
      "value", "string_value", "boolean_value"] j
    (Parameters.mk <$> perhaps j "power_change" lax.integer <*> perhaps j "max_power" lax.integer
      <*> perhaps j "max_cost" lax.integer <*> perhaps j "card_count" (natural lax)
      <*> perhaps j "search_criteria" (searchCriteria lax) <*> perhaps j "keyword" lax.text
      <*> perhaps j "target_type" (word TargetKind) <*> perhaps j "target_count" (natural lax)
      <*> perhaps j "min_targets" (natural lax) <*> perhaps j "max_targets" (natural lax)
      <*> perhaps j "target_filter" (targetFilter lax) <*> perhaps j "duration" (word Duration)
      <*> perhaps j "value" lax.integer <*> perhaps j "string_value" lax.text
      <*> perhaps j "boolean_value" lax.switch)

def abilityFlaw (a : Ability) : Option String :=
  if a.trigger.isSome && a.timing != .auto then
    some "trigger_timing is only valid for AUTO effects"
  else none

/-- An ability; the card it belongs to is not part of its record. -/
def ability (j : Json) : Checked Ability :=
  (model ["id", "label", "timing_type", "effect_type", "trigger_timing", "condition", "cost",
      "parameters", "once_per_turn", "script_id"] j
    ((fun id label timing kind trigger condition cost parameters once script =>
        { id := id, sourceId := "", label := label, timing := timing, kind := kind,
          trigger := trigger, condition := condition, cost := cost, parameters := parameters,
          oncePerTurn := once, scriptId := script })
      <$> required j "id" (textWithin lax none) <*> field j "label" "" lax.text
      <*> required j "timing_type" (word Timing) <*> required j "effect_type" (word AbilityKind)
      <*> perhaps j "trigger_timing" (word Trigger) <*> perhaps j "condition" (condition lax)
      <*> perhaps j "cost" (cost lax) <*> field j "parameters" {} (parameters lax)
      <*> field j "once_per_turn" false lax.switch
      <*> perhaps j "script_id" lax.text)).obeying abilityFlaw

def ofCard (cardId : String) (a : Ability) : Ability := { a with sourceId := cardId }

end CardRules.CardData

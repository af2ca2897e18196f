import CardRules.Ability.Invocation
import CardRules.Json.Fields

/-!
# Records of abilities

The JSON forms of abilities and their parts. Every value has one object; what is absent or
empty is left out, except that an ability always shows its condition, cost, trigger and
script. Probes and a host's own filter have no written form.
-/

namespace CardRules

open Json

namespace Bounds

def ofJson (j : Json) : Except Fault Bounds := do
  let min ← asOption asLeast (j.field "min")
  let max ← asOption asGreatest (j.field "max")
  let exact ← asOption asInteger (j.field "exact")
  pure { min := min, max := max, exact := exact }

def toJson (b : Bounds) : Json :=
  sparse [("min", b.min.map .int), ("max", b.max.map .int), ("exact", b.exact.map .int)]

end Bounds

namespace TargetFilter

def ofJson (j : Json) : Except Fault TargetFilter := do
  let controller ← asOption asText (j.field "controller")
  let zone ← j.listAt "zone" (asWord Zone)
  let category ← j.listAt "category" (asWord Category)
  let color ← j.listAt "color" (asWord Color)
  let costRange ← asOption Bounds.ofJson (j.field "cost_range")
  let powerRange ← asOption Bounds.ofJson (j.field "power_range")
  let state ← j.listAt "state" (asWord Orientation)
  let hasKeyword ← j.listAt "has_keyword" asText
  let lacksKeyword ← j.listAt "lacks_keyword" asText
  let typeTags ← j.listAt "type_tags" asText
  let attributes ← j.listAt "attributes" asText
  let only ← asOption (asList asText) (j.field "custom_filter")
  pure {
    controller := controller, zone := zone, category := category, color := color,
    costRange := costRange, powerRange := powerRange, state := state, hasKeyword := hasKeyword,
    lacksKeyword := lacksKeyword, typeTags := typeTags, attributes := attributes, only := only }

def toJson (f : TargetFilter) : Json :=
  sparse [
    ("controller", f.controller.map .str), ("zone", some (ofNames f.zone)),
    ("category", some (ofNames f.category)), ("color", some (ofNames f.color)),
    ("cost_range", f.costRange.map (·.toJson)), ("power_range", f.powerRange.map (·.toJson)),
    ("state", some (ofNames f.state)), ("has_keyword", some (ofTexts f.hasKeyword)),
    ("lacks_keyword", some (ofTexts f.lacksKeyword)), ("type_tags", some (ofTexts f.typeTags)),
    ("attributes", some (ofTexts f.attributes))]

end TargetFilter

namespace SearchCriteria

def ofJson (j : Json) : Except Fault SearchCriteria := do
  let category ← j.listAt "category" (asWord Category)
  let color ← j.listAt "color" (asWord Color)
  let cost ← asOption Bounds.ofJson (j.field "cost")
  let power ← asOption Bounds.ofJson (j.field "power")
  let typeTags ← j.listAt "type_tags" asText
  let attributes ← j.listAt "attributes" asText
  let keywords ← j.listAt "keywords" asText
  let nameContains ← asOption asText (j.field "name_contains")
  pure {
    category := category, color := color, cost := cost, power := power, typeTags := typeTags,
    attributes := attributes, keywords := keywords, nameContains := nameContains }

def toJson (c : SearchCriteria) : Json :=
  sparse [
    ("category", some (ofNames c.category)), ("color", some (ofNames c.color)),
    ("cost", c.cost.map (·.toJson)), ("power", c.power.map (·.toJson)),
    ("type_tags", some (ofTexts c.typeTags)), ("attributes", some (ofTexts c.attributes)),
    ("keywords", some (ofTexts c.keywords)), ("name_contains", c.nameContains.map .str)]

end SearchCriteria

namespace Operand

def ofJson : Json → Operand
  | .int n => .int n
  | .str s | .brokenStr s => .text s
  | j => .other j

def toJson : Operand → Json
  | .int n => .int n
  | .text s => .str s
  | .other j => j

end Operand

/-- A probe that answers with the truth of a value, or fails with a text. -/
def Probe.ofJson (j : Json) : Except Fault Probe := do
  let name ← j.getOr "name" "p" asText
  match j.get? "raises" with
  | some failure => do
    let message ← asText failure
    pure ⟨name, .error message⟩
  | none => pure ⟨name, .ok (j.field "result").isTruthy⟩

namespace Condition

def ofJson (j : Json) : Except Fault Condition := do
  let kind ← j.need "type" (asWord ConditionKind)
  let parts ← j.parts "operands"
  let operands ← parts.mapM fun ⟨x, _⟩ => ofJson x
  let operator ← asOption (asWord Comparison) (j.field "operator")
  let left := (j.get? "left").filter (!·.isNull)
  let right := (j.get? "right").filter (!·.isNull)
  let keyword ← asOption asText (j.field "keyword")
  let zone ← asOption (asWord Zone) (j.field "zone")
  let color ← asOption asText (j.field "color")
  let probe ← asOption Probe.ofJson (j.field "predicate")
  pure {
    kind := kind, operands := operands, operator := operator, left := left.map Operand.ofJson,
    right := right.map Operand.ofJson, keyword := keyword, zone := zone, color := color,
    probe := probe }
  termination_by sizeOf j

mutual
def toJson : Condition → Json
  | ⟨kind, operands, operator, left, right, keyword, zone, color, _⟩ =>
    sparse [
      ("type", some (.str kind.name)), ("operands", some (.arr (operandsJson operands))),
      ("operator", operator.map (.str ·.name)), ("left", left.map (·.toJson)),
      ("right", right.map (·.toJson)), ("keyword", keyword.map .str),
      ("zone", zone.map (.str ·.name)), ("color", color.map .str)]

def operandsJson : List Condition → List Json
  | [] => []
  | c :: rest => c.toJson :: operandsJson rest
end

end Condition

namespace Cost

def ofJson (j : Json) : Except Fault Cost := do
  let kind ← j.need "type" (asWord CostKind)
  let amount ← match j.get? "amount", kind with
    | none, _ | some .null, .composite => pure 0
    | some v, _ => asInteger v
  let given ← j.parts "costs"
  let parts ← given.mapM fun ⟨x, _⟩ => ofJson x
  pure { kind := kind, amount := amount, parts := parts }
  termination_by sizeOf j

mutual
def toJson : Cost → Json
  | ⟨kind, amount, parts⟩ =>
    sparse [
      ("type", some (.str kind.name)), ("amount", some (.int amount)),
      ("costs", some (.arr (partsJson parts)))]

def partsJson : List Cost → List Json
  | [] => []
  | c :: rest => c.toJson :: partsJson rest
end

end Cost

namespace Target

/-- A target; a text is the id of a card. -/
def ofJson (j : Json) : Except Fault Target :=
  match j with
  | .str s => .ok (.card (some s))
  | _ => do
    let kind ← j.getOr "type" TargetKind.card (asWord TargetKind)
    match kind with
    | .card => (asOption asText (j.field "card_id")).map .card
    | .player => (asOption (asWord Player) (j.field "player_id")).map .player
    | .zone => do
      let zone ← j.need "zone_id" (asWord Zone)
      let player ← asOption (asWord Player) (j.field "player_id")
      pure (.zone zone player)
    | .value => .ok (.value (j.get? "value"))

def toJson (t : Target) : Json :=
  let parts : List (String × Option Json) := match t with
    | card id => [("card_id", id.map .str)]
    | player p => [("player_id", p.map (.str ·.name))]
    | zone z p => [("player_id", p.map (.str ·.name)), ("zone_id", some (.str z.name))]
    | value v => [("value", v)]
  .obj (("type", .str t.kind.name) :: parts.filterMap fun (key, v) =>
    (v.filter (!·.isNull)).map (key, ·))

end Target

namespace Parameters

def ofJson (j : Json) : Except Fault Parameters := do
  let int (key : String) : Except Fault (Option Int) := asOption asInteger (j.field key)
  let powerChange ← int "power_change"
  let maxPower ← asOption asGreatest (j.field "max_power")
  let maxCost ← asOption asGreatest (j.field "max_cost")
  let cardCount ← int "card_count"
  let criteria ← asOption SearchCriteria.ofJson (j.field "search_criteria")
  let keyword ← asOption asText (j.field "keyword")
  let targetType ← asOption (asWord TargetKind) (j.field "target_type")
  let targetCount ← int "target_count"
  let minTargets ← int "min_targets"
  let maxTargets ← int "max_targets"
  let filter ← asOption TargetFilter.ofJson (j.field "target_filter")
  let duration ← asOption (asWord Duration) (j.field "duration")
  let value ← int "value"
  let stringValue ← asOption asText (j.field "string_value")
  let booleanValue := match j.field "boolean_value" with
    | .null => none
    | v => some v.isTruthy
  pure {
    powerChange := powerChange, maxPower := maxPower, maxCost := maxCost, cardCount := cardCount,
    searchCriteria := criteria, keyword := keyword, targetType := targetType,
    targetCount := targetCount, minTargets := minTargets, maxTargets := maxTargets,
    targetFilter := filter, duration := duration, value := value, stringValue := stringValue,
    booleanValue := booleanValue }

def toJson (p : Parameters) : Json :=
  sparse [
    ("power_change", p.powerChange.map .int), ("max_power", p.maxPower.map .int),
    ("max_cost", p.maxCost.map .int), ("card_count", p.cardCount.map .int),
    ("search_criteria", p.searchCriteria.map (·.toJson)), ("keyword", p.keyword.map .str),
    ("target_type", p.targetType.map (.str ·.name)), ("target_count", p.targetCount.map .int),
    ("min_targets", p.minTargets.map .int), ("max_targets", p.maxTargets.map .int),
    ("target_filter", p.targetFilter.map (·.toJson)), ("duration", p.duration.map (.str ·.name)),
    ("value", p.value.map .int), ("string_value", p.stringValue.map .str),
    ("boolean_value", p.booleanValue.map .bool)]

end Parameters

namespace Ability

/-- An ability with the fields that a record gives; without an id it is named after its card. -/
def revised (base : Ability) (j : Json) : Except Fault Ability := do
  let sourceId ← j.getOr "source_card_id" base.sourceId asText
  let id ← j.getOr "id" (if base.id.isEmpty then sourceId ++ "-e" else base.id) asText
  let label ← j.getOr "label" base.label asText
  let timing ← j.getOr "timing_type" base.timing (asWord Timing)
  let kind ← j.getOr "effect_type" base.kind (asWord AbilityKind)
  let trigger ← asOption (asWord Trigger) (j.field "trigger_timing")
  let condition ← asOption Condition.ofJson (j.field "condition")
  let cost ← asOption Cost.ofJson (j.field "cost")
  let parameters ← j.getOr "parameters" {} Parameters.ofJson
  let scriptId ← asOption asText (j.field "script_id")
  pure {
    id := id, sourceId := sourceId, label := label, timing := timing, kind := kind,
    trigger := trigger, condition := condition, cost := cost, parameters := parameters,
    oncePerTurn := (j.field "once_per_turn").isTruthy,
    usedThisTurn := (j.field "used_this_turn").isTruthy, scriptId := scriptId }

def blank (sourceId : String) : Ability :=
  { id := "", sourceId := sourceId, timing := .auto, kind := .powerModification }

def standInId : String := "SRC"

/-- An ability of a card; only what kind it is has no default. -/
def ofJson (sourceId : String) (j : Json) : Except Fault Ability := do
  let kind ← j.need "effect_type" (asWord AbilityKind)
  revised { blank sourceId with kind := kind } j

def toJson (a : Ability) : Json :=
  .obj [
    ("id", .str a.id), ("source_card_id", .str a.sourceId), ("label", .str a.label),
    ("timing_type", .str a.timing.name), ("effect_type", .str a.kind.name),
    ("trigger_timing", ofOption (.str ·.name) a.trigger),
    ("condition", ofOption (·.toJson) a.condition), ("cost", ofOption (·.toJson) a.cost),
    ("parameters", a.parameters.toJson), ("once_per_turn", .bool a.oncePerTurn),
    ("used_this_turn", .bool a.usedThisTurn), ("script_id", ofOption .str a.scriptId)]

end Ability

namespace Invocation

def ofJson (a : Ability) (j : Json) : Except Fault Invocation := do
  let controller ← j.getOr "controller" .one (asWord Player)
  let targets ← j.listAt "targets" Target.ofJson
  let priority ← j.getOr "instance_priority" 0 asInteger
  pure (.ofAbility a controller targets (j.field "values").fields priority)

end Invocation

end CardRules

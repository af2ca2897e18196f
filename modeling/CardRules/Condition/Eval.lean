import CardRules.Condition.Quantity
import CardRules.Hosted

/-!
# Evaluating conditions

`Condition.eval` decides a condition in a context. Operands are taken from left to right and
only as far as the answer needs them, so the journal shows which probes were asked.
-/

namespace CardRules.Condition

def malformed (kind : ConditionKind) (message : String) : Fault :=
  .malformedCondition (some message) (some kind.name)

def evalCompare (ctx : Context) :
    Option Comparison → Option Operand → Option Operand → Except Fault Bool
  | some op, some left, some right => do
    let a ← left.value ctx
    let b ← right.value ctx
    pure (op.holds a b)
  | _, _, _ => .error (malformed .compare "COMPARE needs operator, left and right")

/-- Whether the source card has a keyword; no card or no keyword says no. -/
def sourceHasKeyword (ctx : Context) (keyword : Option String) : Bool :=
  match keyword, ctx.source with
  | some k, some c => !k.isEmpty && c.hasKeyword k
  | _, _ => false

def sourceInZone (ctx : Context) (zone : Option Zone) : Bool :=
  match zone, ctx.source with
  | some z, some c => c.zone == z
  | _, _ => false

def sourceIsColor (ctx : Context) (color : Option String) : Bool :=
  match color, ctx.source with
  | some w, some c => !w.isEmpty && c.face.colors.any fun d => Text.upper d == Text.upper w
  | _, _ => false

mutual
def eval (ctx : Context) : Condition → Hosted Bool
  | ⟨kind, operands, operator, left, right, keyword, zone, color, probe⟩ =>
    match kind with
    | .and => evalAll ctx operands
    | .or => evalAny ctx operands
    | .not =>
      match operands with
      | [c] => do
        let b ← eval ctx c
        pure !b
      | _ => throw (malformed .not
          ("NOT takes exactly one operand, got " ++ toString operands.length))
    | .compare => Hosted.lift (evalCompare ctx operator left right)
    | .hasKeyword => pure (sourceHasKeyword ctx keyword)
    | .inZone => pure (sourceInZone ctx zone)
    | .isColor => pure (sourceIsColor ctx color)
    | .custom =>
      match probe with
      | some p => ctx.answer.probe p ctx.toView
      | none => throw (malformed .custom "CUSTOM condition has no predicate")

/-- Decides whether all conditions hold, up to the first that does not. -/
def evalAll (ctx : Context) : List Condition → Hosted Bool
  | [] => pure true
  | c :: rest => do
    let b ← eval ctx c
    if b then evalAll ctx rest else pure false

def evalAny (ctx : Context) : List Condition → Hosted Bool
  | [] => pure false
  | c :: rest => do
    let b ← eval ctx c
    if b then pure true else evalAny ctx rest
end

end CardRules.Condition

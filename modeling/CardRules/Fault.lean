import CardRules.Json.Writer
import CardRules.Text.Integer

/-!
# Faults

What can go wrong, as causes. A fault of the engine has a message and details; `Fault.text`
is the line that reports both. A host may word a fault itself, so every engine fault carries
an optional message that replaces its own.

The last group are faults outside the engine's family: a value that does not fit, a look-up
without a hit, and what host code and the file system bring in.
-/

namespace CardRules

inductive Fault where
  /-- A fault of the engine that no other constructor describes. -/
  | general (message : String) (details : List (String × Json))
  | unreadableSegment (message cardId segment : Option String)
  | invalidEffect (message effectKind sourceId : Option String)
  | malformedCondition (message conditionKind : Option String)
  | unpaidCost (message costKind : Option String) (required available : Int)
  | noResolver (message effectKind : Option String)
  | resolverTaken (message effectKind : Option String)
  | noScript (message scriptId : Option String)
  | scriptTaken (message scriptId : Option String)
  | scriptFailed (message scriptId : Option String)
  | targetGone (message targetId : Option String)
  | noCard (message cardId : Option String)
  | noPlayer (message playerId : Option String)
  | refused (message effectId cardId reason : Option String)
  /-- A value outside what the operation takes. -/
  | badValue (text : String)
  /-- Raised by host code. -/
  | host (text : String)
  | missingKey
  | wrongType
  | isDirectory
  | fileExists
  | notDirectory
  | nameTooLong
  /-- A document whose values stand too deep inside each other. -/
  | tooDeep
  /-- A number too large for what it counts or measures. -/
  | outOfRange
  deriving Repr, Inhabited

namespace Fault

def nameOrNone (name : Option String) : String := name.getD "None"

def message : Fault → String
  | general m _ => m
  | unreadableSegment m _ _ => m.getD "Effect segment could not be parsed"
  | invalidEffect m _ _ => m.getD "Effect cannot be resolved"
  | malformedCondition m _ => m.getD "Malformed condition expression"
  | unpaidCost m _ _ _ => m.getD "Cost cannot be paid"
  | noResolver m kind => m.getD ("No resolver registered for effect type: " ++ nameOrNone kind)
  | resolverTaken m kind =>
    m.getD ("Resolver already registered for effect type: " ++ nameOrNone kind)
  | noScript m id => m.getD ("Effect script " ++ nameOrNone id ++ " not found in registry")
  | scriptTaken m id => m.getD ("Script " ++ nameOrNone id ++ " is already registered")
  | scriptFailed m _ => m.getD "Effect script failed"
  | targetGone m _ => m.getD "Target not found"
  | noCard m id => m.getD ("Card " ++ nameOrNone id ++ " not found")
  | noPlayer m id => m.getD ("Player " ++ nameOrNone id ++ " not found")
  | refused m _ _ _ => m.getD "Action not legal"
  | badValue text => text
  | host text => text
  | missingKey | wrongType | isDirectory | fileExists | notDirectory | nameTooLong | tooDeep
  | outOfRange => ""

/-- A detail that is only mentioned when it says something. -/
def detail (key : String) (value : Option String) : List (String × Json) :=
  match value with
  | some v => if v.isEmpty then [] else [(key, .str v)]
  | none => []

def details : Fault → List (String × Json)
  | general _ ds => ds
  | unreadableSegment _ card segment => detail "card_id" card ++ detail "segment" segment
  | invalidEffect _ kind source => detail "effect_type" kind ++ detail "source_card_id" source
  | malformedCondition _ kind => detail "condition_type" kind
  | unpaidCost _ kind required available =>
    [("required", .int required), ("available", .int available)] ++ detail "cost_type" kind
  | noResolver _ kind => detail "effect_type" kind
  | resolverTaken _ kind => detail "effect_type" kind
  | noScript _ id => detail "script_id" id
  | scriptTaken _ id => detail "script_id" id
  | scriptFailed _ id => detail "script_id" id
  | targetGone _ id => detail "target_id" id
  | noCard _ id => detail "card_id" id
  | noPlayer _ id => detail "player_id" id
  | refused _ effect card reason =>
    detail "effect_id" effect ++ detail "card_id" card ++ detail "reason" reason
  | _ => []

/-- The line that reports a fault. -/
def text (f : Fault) : String :=
  if f.details.isEmpty then f.message
  else f.message ++ " | Details: " ++ (Json.obj f.details).shown

def nullInText : Fault := badValue "embedded null byte"

/-- The fault for a text that writes no integer. A long text is cut. -/
def ofInteger (written : List Char) : Text.IntegerProblem → Fault
  | .tooManyDigits count =>
    badValue ("Exceeds the limit (" ++ toString Text.digitLimit ++
      " digits) for integer string conversion: value has " ++ toString count ++
      " digits; use sys.set_int_max_str_digits() to increase the limit")
  | .malformed =>
    badValue ("invalid literal for int() with base 10: " ++
      String.ofList ((Text.quotedChars written).take 200))

/-- Faults that reject an effect as it is written, as opposed to the moment it is used. -/
def isValidation : Fault → Bool
  | invalidEffect .. => true
  | malformedCondition .. => true
  | _ => false

end Fault

@[simp] theorem ok_bind {α β : Type} (a : α) (f : α → Except Fault β) :
    (Except.ok a >>= f) = f a := rfl

theorem ok_of_bind {α β : Type} {x : Except Fault α} {f : α → Except Fault β} {b : β}
    (h : x >>= f = .ok b) : ∃ a, x = .ok a ∧ f a = .ok b := by
  match x, h with
  | .ok a, h => exact ⟨a, rfl, h⟩

/-- A value that is made of another is there only if the other is. -/
theorem ok_of_map {α β : Type} {x : Except Fault α} {f : α → β} {b : β}
    (h : x.map f = .ok b) : ∃ a, x = .ok a ∧ f a = b := by
  match x, h with
  | .ok a, rfl => exact ⟨a, rfl, rfl⟩

end CardRules

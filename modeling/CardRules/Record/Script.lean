import CardRules.Record.Game
import CardRules.Script.Basic

/-!
# Records of scripts

A script written as data: a list of steps, each the name of a helper with its arguments. A
step is read when its turn comes, so that a script with a bad step still does what comes
before it.
-/

namespace CardRules.Script

open Json

def given {α : Type} : Except Fault α → ScriptM α
  | .ok a => pure a
  | .error f => throw f

def quiet (step : ScriptM Unit) : ScriptM Json := do
  step
  pure .null

/-- One step with its arguments; its value is null for most helpers. -/
def stepNamed (name : String) (first second : Json) (third : Option Json) : ScriptM Json := do
  let id := given (asText first)
  let duration := given (match third with
    | some word => asWord Duration word
    | none => .ok .permanent)
  let modify (kind : ModifierKind) : ScriptM Json := do
    let id ← id
    let value ← given (ModifierValue.ofJson second)
    let d ← duration
    quiet (ScriptM.addModifier id kind value d)
  match name with
  | "raise" =>
    let message ← given (asText first)
    throw (.host message)
  | "record" => quiet (ScriptM.record first)
  | "source_id" =>
    let id ← ScriptM.sourceId
    pure (.str id)
  | "first_card_target" =>
    let id ← ScriptM.firstCardTarget
    pure (.str id)
  | "search_zone" =>
    let p ← given (asWord Player first)
    let zone ← given (asWord Zone second)
    let filter ← given (asOption TargetFilter.ofJson (third.getD .null))
    let found ← ScriptM.searchZone p zone filter
    pure (ofTexts (found.map (·.id)))
  | "draw_cards" =>
    let p ← given (asWord Player first)
    let n ← given (asInteger second)
    quiet (ScriptM.drawCards p n.toNat)
  | "move_card" =>
    let id ← id
    let zone ← given (asWord Zone second)
    quiet (ScriptM.moveCard id zone)
  | "modify_power" => modify .power
  | "modify_cost" => modify .cost
  | "grant_keyword" => modify .keyword
  | "ko_card" =>
    let id ← id
    quiet (ScriptM.koCard id)
  | "banish_card" =>
    let id ← id
    quiet (ScriptM.banishCard id)
  | "rest_card" =>
    let id ← id
    quiet (ScriptM.restCard id)
  | "activate_card" =>
    let id ← id
    quiet (ScriptM.activateCard id)
  | _ => throw .missingKey

/-- A step written as a list: its name, then its arguments. -/
def stepOfJson : Json → ScriptM Json
  | .arr (.str name :: args) =>
    stepNamed name (args.getD 0 .null) (args.getD 1 .null) args[2]?
  | _ => throw .wrongType

def ofSteps : List Json → Script
  | [] => pure ()
  | j :: rest => do
    let value ← stepOfJson j
    if value.isNull then pure () else ScriptM.record value
    ofSteps rest

end CardRules.Script

import CardRules.Json.Fields
import CardRules.Logging.Setup

/-!
# Records of settings and log handlers

The JSON forms of settings, of the environment they come from, and of the log handlers that
they lead to.
-/

namespace CardRules

open Json

namespace Environment

def valueOfJson (j : Json) : Except Fault String := do
  let s ← asText j
  if s.contains '\x00' then throw .nullInText else pure s

/-- The environment with the variables of a record set; null unsets one. -/
def withJson (env : Environment) (j : Json) : Except Fault Environment :=
  j.fields.foldlM (fun (env : Environment) (key, v) => do
    let value ← asOption valueOfJson v
    pure (env.put key value)) env

end Environment

namespace SettingsChanges

def ofJson (j : Json) : Except Fault SettingsChanges := do
  let stackLimit ← j.perhaps "stack_resolution_limit" asInteger
  let donBonus ← j.perhaps "don_power_bonus" asInteger
  let logLevel ← asOption asText (j.field "log_level")
  let debug ← asOption (fun b => pure b.isTruthy) (j.field "debug_mode")
  pure { stackLimit := stackLimit, donBonus := donBonus, logLevel := logLevel, debug := debug }

end SettingsChanges

namespace Settings

def toJson (s : Settings) : Json :=
  .obj [
    ("stack_resolution_limit", .int s.stackLimit), ("don_power_bonus", .int s.donBonus),
    ("log_level", .str s.logLevel), ("debug_mode", .bool s.debug)]

end Settings

namespace Logging

def Level.ofJson : Json → Except Fault Level
  | .str s => .ok (.named s)
  | j => (asInteger j).map .number

/-- A wish for handlers; what a record does not give is as in `Wanted`. -/
def Wanted.ofJson (j : Json) : Except Fault Wanted := do
  let standard : Wanted := {}
  let level ← asOption Level.ofJson (j.field "level")
  let logFile ← asOption asText (j.field "log_file")
  let consoleLevel ← asOption Level.ofJson (j.field "console_level")
  let maxBytes ← j.getOr "max_bytes" standard.maxBytes (asOption asInteger)
  let backupCount ← j.getOr "backup_count" standard.backupCount (asOption asInteger)
  let engineLevel ← asOption Level.ofJson (j.field "engine_level")
  pure {
    level := level, logFile := logFile
    enableFile := (j.get? "enable_file").all (·.isTruthy)
    enableConsole := (j.field "enable_console").isTruthy
    consoleLevel := consoleLevel.or standard.consoleLevel, maxBytes := maxBytes
    backupCount := backupCount, engineLevel := engineLevel }

/-- A handler; the file of a file handler exists, since opening makes it. -/
def Handler.toJson (h : Handler) : Json :=
  let more : List (String × Json) := match h with
    | .file path rotation _ => [
        ("file", .str path.toText), ("max_bytes", .int rotation.maxBytes),
        ("backup_count", ofOption .int rotation.backups), ("exists", .bool true)]
    | .console _ => []
  .obj ([("name", .str h.name), ("level", .int h.level)] ++ more)

def Plan.toJson (p : Plan) : Json :=
  .obj [
    ("root_level", .int rootLevel), ("engine_level", .int p.engineLevel),
    ("handlers", .arr (p.handlers.map (·.toJson)))]

end Logging

end CardRules

import CardRules.Fault
import CardRules.Text.Blank
import CardRules.Text.Case

/-!
# Settings

The tunable numbers and switches of the engine. They are taken from the environment, each
with a default for a variable that is unset, blank or unreadable, and can be overridden one
by one. Settings that are out of range are refused.
-/

namespace CardRules

structure Settings where
  /-- The most entries that one resolution of the stack takes. -/
  stackLimit : Int := 1000
  /-- The power that an attached DON!! adds. -/
  donBonus : Int := 1000
  logLevel : String := "INFO"
  debug : Bool := false
  deriving DecidableEq, Repr, Inhabited

abbrev Environment := List (String × String)

namespace Environment

def put (env : Environment) (key : String) (value : Option String) : Environment :=
  let others := env.filter (·.1 != key)
  match value with
  | some v => (key, v) :: others
  | none => others

@[simp] theorem lookup_put_self (env : Environment) (key : String) (value : Option String) :
    (env.put key value).lookup key = value := by
  cases value with
  | some v => simp [put]
  | none =>
    simp only [put, List.lookup_eq_none_iff, List.mem_filter]
    intro e he
    simpa using Ne.symm (by simpa using he.2)

/-- What a variable says, unless it is unset, blank or unreadable. -/
def read? {α : Type} (env : Environment) (key : String) (parse : String → Option α) : Option α :=
  match env.lookup key with
  | none => none
  | some raw => if (Text.trim raw.toList).isEmpty then none else parse raw

end Environment

structure SettingsChanges where
  stackLimit : Option Int := none
  donBonus : Option Int := none
  logLevel : Option String := none
  debug : Option Bool := none
  deriving Repr, Inhabited

namespace Settings

/-- The settings, if their numbers are in range. -/
def checked (s : Settings) : Except Fault Settings :=
  if s.stackLimit < 1 then
    .error (.badValue ("stack_resolution_limit must be >= 1, got " ++ toString s.stackLimit))
  else if s.donBonus < 0 then
    .error (.badValue ("don_power_bonus must be >= 0, got " ++ toString s.donBonus))
  else .ok s

def override (s : Settings) (c : SettingsChanges) : Except Fault Settings :=
  checked {
    stackLimit := c.stackLimit.getD s.stackLimit, donBonus := c.donBonus.getD s.donBonus,
    logLevel := c.logLevel.getD s.logLevel, debug := c.debug.getD s.debug }

def integer? (raw : String) : Option Int := (Text.readInteger raw.toList).toOption

/-- The yes or no that a word stands for, in any letter case. -/
def switch? (raw : String) : Option Bool :=
  let w := Text.lower (Text.strip raw)
  if ["true", "1", "yes", "on"].contains w then some true
  else if ["false", "0", "no", "off"].contains w then some false
  else none

def changesIn (env : Environment) : SettingsChanges where
  stackLimit := env.read? "TCG_STACK_LIMIT" integer?
  donBonus := env.read? "TCG_DON_POWER_BONUS" integer?
  logLevel := env.read? "TCG_LOG_LEVEL" fun raw => some (Text.upper raw)
  debug := env.read? "TCG_DEBUG" switch?

/-- The settings that the given values make up, with those of the environment for the others. -/
def build (env : Environment) (given : SettingsChanges) : Except Fault Settings :=
  let e := changesIn env
  override {} {
    stackLimit := given.stackLimit.or e.stackLimit, donBonus := given.donBonus.or e.donBonus,
    logLevel := given.logLevel.or e.logLevel, debug := given.debug.or e.debug }

def ofEnvironment (env : Environment) : Except Fault Settings := build env {}

end Settings

/-- The settings that all engines without their own share. They are taken from the environment
when they are first asked for, and stay until they are dropped. -/
structure SharedSettings where
  current : Option Settings := none
  deriving Repr, Inhabited

namespace SharedSettings

def get (shared : SharedSettings) (env : Environment) : Except Fault (Settings × SharedSettings) :=
  match shared.current with
  | some s => .ok (s, shared)
  | none =>
    match Settings.ofEnvironment env with
    | .ok s => .ok (s, ⟨some s⟩)
    | .error f => .error f

def reset (_ : SharedSettings) : SharedSettings := {}

end SharedSettings

end CardRules

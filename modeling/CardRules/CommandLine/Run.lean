import CardRules.CardData.Card
import CardRules.CommandLine.Arguments
import CardRules.Json.Reader
import CardRules.Report

/-!
# Running a command line

What a command line prints and how it ends. The text of the file it names is handed in, so
that nothing here depends on the world.
-/

namespace CardRules.CommandLine

inductive Printed where
  | table (t : Report.Table)
  | line (s : String)
  deriving Repr

inductive Ending where
  | exit (code : Nat)
  /-- The arguments themselves end the run. -/
  | stopped (stop : Stop)
  /-- A fault that the command line does not handle. -/
  | fault (f : Fault)
  deriving Repr

structure Outcome where
  printed : List Printed := []
  ending : Ending
  deriving Repr

inductive Command where
  | rules
  | file (path : String)
  | text (cardId : Option String) (text : String)
  /-- Nothing to do: help is shown. -/
  | help
  deriving Repr

def given (s : Option String) : Option String := s.filter (· != "")

def Command.ofArguments (a : Arguments) : Command :=
  if a.rules then .rules
  else match given a.file, given a.text with
    | some path, _ => .file path
    | none, some s => .text a.cardId s
    | none, none => .help

def failed (line : String) : Outcome := { printed := [.line line], ending := .exit 1 }

def unreadable (path reason : String) : Outcome :=
  failed ("[red]Cannot read " ++ path ++ ": " ++ reason ++ "[/red]")

def problemLine (p : CardData.Problem) : String :=
  let place := ".".intercalate (p.path.map fun
    | .field name => name
    | .item i => toString i)
  let text := match p.kind with
    | .rule text => text
    | kind => kind.name
  place ++ ": " ++ text

def cardTable (f : CardFace) : Printed :=
  .table (Report.abilities (some (f.id ++ " " ++ f.name)) f.abilities)

structure Reading where
  /-- The levels of lists and objects that a file may have. -/
  depth : Nat
  lax : CardData.Lenience

def showFile (reading : Reading) (path content : String) : Outcome :=
  match Json.read reading.depth content with
  | .error .malformed => unreadable path "not a JSON document"
  | .error (.tooManyDigits n) => { ending := .fault (.ofInteger [] (.tooManyDigits n)) }
  | .error .tooDeep => { ending := .fault .tooDeep }
  | .ok j =>
    match CardData.records j with
    | .error f => { ending := .fault f }
    | .ok records =>
      match CardData.faces reading.lax records with
      | .invalid ps =>
        failed ("[red]Invalid card data:[/red]\n" ++ "\n".intercalate (ps.map problemLine))
      | .valid fs => { printed := fs.map cardTable, ending := .exit 0 }

/-- Shows the abilities that a text describes. Without the id of a card they are numbered behind
empty brackets. -/
def showText (cardId : Option String) (text : String) : Outcome :=
  match CardText.abilities CardText.Rule.standard (cardId.getD "[]") text with
  | [] => { printed := [.line "[yellow]No effects found[/yellow]"], ending := .exit 0 }
  | as => { printed := [.table (Report.abilities cardId as)], ending := .exit 0 }

/-- Carries out a command. `content` is the text of the file that it names, if it can be read. -/
def Command.run (reading : Reading) (content : Option String) : Command → Outcome
  | rules => { printed := [.table (Report.rules CardText.Rule.standard)], ending := .exit 0 }
  | file path =>
    if path.contains '\x00' then { ending := .fault .nullInText }
    else match content with
      | some s => showFile reading path s
      | none => unreadable path "no such file"
  | text cardId s => showText cardId s
  | help => { ending := .exit 2 }

def run (reading : Reading) (files : String → Option String) (argv : List String) : Outcome :=
  match Arguments.read argv with
  | .error stop => { ending := .stopped stop }
  | .ok a =>
    let command := Command.ofArguments a
    let content := match command with
      | .file path => files path
      | _ => none
    command.run reading content

end CardRules.CommandLine

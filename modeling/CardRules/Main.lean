import CardRules.CardData.Lenience
import CardRules.CommandLine.Run

/-!
# The command

Shows the abilities that card text describes: of a text, of the cards in a file, or the
rules that read texts.
-/

open CardRules CommandLine

def usage : List String := [
  "usage: [-h] [--card-id ID] [-f FILE] [-r] [-v] [text]",
  "",
  "  text           card text to read",
  "  --card-id ID   id of the card the text belongs to",
  "  -f, --file     JSON file with a list of cards",
  "  -r, --rules    list the rules in order",
  "  -v, --verbose  also report texts that cannot be read"]

def printAll (lines : List String) : IO Unit := lines.forM IO.println

def display : Printed → IO Unit
  | .table t => printAll (Report.lines t)
  | .line s => IO.println s

/-- The content of a file, if it can be read. -/
def readFile? (path : String) : IO (Option String) := do
  try
    let content ← IO.FS.readFile path
    pure (some content)
  catch _ => pure none

def finish (o : Outcome) : IO UInt32 := do
  o.printed.forM display
  match o.ending with
  | .exit code => do
    if code = 2 then printAll usage
    pure code.toUInt32
  | .stopped .helpShown => do
    printAll usage
    pure 0
  | .stopped .usageError => do
    printAll usage
    pure 2
  | .fault f => do
    IO.eprintln f.text
    pure 1

def reading : Reading where
  depth := 989
  lax := .standard

def main (argv : List String) : IO UInt32 := do
  match Arguments.read argv with
  | .error stop => finish { ending := .stopped stop }
  | .ok a =>
    match Command.ofArguments a with
    | .file path => do
      let content ← readFile? path
      finish ((Command.file path).run reading content)
    | command => finish (command.run reading none)

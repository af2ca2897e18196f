import CardRules.Text.Digit

/-!
# Command-line arguments

Options are known by a short name, a long name or any beginning of a long name that no other
option shares. Short options may stand together behind one dash, and a value may follow its
option directly or behind an equals sign. A lone `--` ends the options, and as the value of an
option it stands for none. An argument with a dash that looks like a negative number or holds
a space is a value.
-/

namespace CardRules.CommandLine

inductive OptionKind where
  | help
  | cardId
  | file
  | rules
  | verbose
  deriving DecidableEq, Repr, Inhabited

namespace OptionKind

def takesValue : OptionKind → Bool
  | cardId | file => true
  | _ => false

def names : List (String × OptionKind) := [
  ("-h", help), ("--help", help), ("--card-id", cardId), ("-f", file), ("--file", file),
  ("-r", rules), ("--rules", rules), ("-v", verbose), ("--verbose", verbose)]

end OptionKind

/-- An argument that starts like an option: the name it uses, with the value it brings along, or
an unknown one. -/
inductive Marked where
  | known (name : String) (option : OptionKind) (value : Option String)
  | unknown
  deriving Repr

inductive Part where
  | value (s : String)
  | marked (s : String) (m : Marked)
  /-- The mark that ends the options. -/
  | endOfOptions
  deriving Repr

inductive Stop where
  /-- Help is shown instead. -/
  | helpShown
  | usageError
  deriving DecidableEq, Repr

def isNegativeNumber (s : List Char) : Bool :=
  match s with
  | '-' :: rest =>
    let rest := if rest.getLast? == some '\n' then rest.dropLast else rest
    let whole := rest.takeWhile Text.isDigit
    match rest.drop whole.length with
    | [] => !whole.isEmpty
    | '.' :: fraction => !fraction.isEmpty && fraction.all Text.isDigit
    | _ => false
  | _ => false

/-- The name and the value of an argument with an equals sign. -/
def splitValue (s : List Char) : List Char × Option String :=
  let name := s.takeWhile (· != '=')
  match s.drop name.length with
  | [] => (s, none)
  | _ :: value => (name, some (String.ofList value))

/-- The options that an argument may mean when it is no full name. -/
def candidates (s : List Char) : List Marked :=
  match s with
  | '-' :: '-' :: _ =>
    let (start, value) := splitValue s
    OptionKind.names.filterMap fun (n, o) =>
      if start.isPrefixOf n.toList then some (.known n o value) else none
  | _ =>
    OptionKind.names.filterMap fun (n, o) =>
      if n.toList == s.take 2 then some (.known n o (some (String.ofList (s.drop 2))))
      else if s.isPrefixOf n.toList then some (.known n o none)
      else none

def classify (s : String) : Except Stop Part :=
  let cs := s.toList
  if cs.head? != some '-' then .ok (.value s)
  else match OptionKind.names.lookup s with
    | some o => .ok (.marked s (.known s o none))
    | none =>
      if cs.length == 1 then .ok (.value s)
      else
        let (name, value) := splitValue cs
        let full := if value.isSome then OptionKind.names.lookup (String.ofList name) else none
        match full with
        | some o => .ok (.marked s (.known (String.ofList name) o value))
        | none =>
          match candidates cs with
          | [m] => .ok (.marked s m)
          | _ :: _ => .error .usageError
          | [] =>
            if isNegativeNumber cs || cs.contains ' ' then .ok (.value s)
            else .ok (.marked s .unknown)

/-- All arguments; behind a lone `--` they are values. -/
def classifyAll : List String → Except Stop (List Part)
  | [] => .ok []
  | "--" :: rest => .ok (.endOfOptions :: rest.map .value)
  | s :: rest => do
    let part ← classify s
    let more ← classifyAll rest
    pure (part :: more)

structure Arguments where
  text : Option String := none
  /-- The id of the card that the text belongs to, unless it is taken away. -/
  cardId : Option String := some "CARD-000"
  file : Option String := none
  rules : Bool := false
  verbose : Bool := false
  deriving DecidableEq, Repr, Inhabited

/-- The value of an option; the mark that ends the options is none. -/
def optionValue (s : String) : Option String := if s == "--" then none else some s

namespace Arguments

def withOption (a : Arguments) (o : OptionKind) (value : String) : Except Stop Arguments :=
  match o with
  | .help => .error .helpShown
  | .cardId => .ok { a with cardId := optionValue value }
  | .file => .ok { a with file := optionValue value }
  | .rules => .ok { a with rules := true }
  | .verbose => .ok { a with verbose := true }

def withOptions (a : Arguments) : List (OptionKind × String) → Except Stop Arguments
  | [] => .ok a
  | (o, value) :: rest => do
    let a ← a.withOption o value
    withOptions a rest

end Arguments

/-- Short options that stand together: those without a value, then one that may take the rest.
The result lists the options with their values; the last may still lack its value. -/
def cluster : List Char → Except Stop (List (OptionKind × Option String))
  | [] => .ok []
  | c :: rest =>
    match OptionKind.names.lookup (String.ofList ['-', c]) with
    | none => .error .usageError
    | some o =>
      if o.takesValue then
        .ok [(o, if rest.isEmpty then none else some (String.ofList rest))]
      else (cluster rest).map ((o, none) :: ·)

def optionsOf (name : String) (o : OptionKind) :
    Option String → Except Stop (List (OptionKind × Option String))
  | none => .ok [(o, none)]
  | some value =>
    if o.takesValue then .ok [(o, some value)]
    else if name.startsWith "--" || value.isEmpty then .error .usageError
    else (cluster value.toList).map ((o, none) :: ·)

/-- Where a reader of arguments stands: what it has read, and whether the text is settled. -/
structure Progress where
  arguments : Arguments := {}
  /-- The place of the text has been taken, by a text or by none. -/
  textTaken : Bool := false
  /-- Whether some argument had no place. -/
  leftOver : Bool := false

namespace Progress

/-- A stretch of values between options, perhaps with the mark that ends the options. The first
stretch takes the place of the text. -/
def withValues (p : Progress) (values : List String) : Progress :=
  if p.textTaken then { p with leftOver := true }
  else
    { p with
      arguments := { p.arguments with text := values.head? }, textTaken := true,
      leftOver := p.leftOver || 1 < values.length }

end Progress

/-- Gives the last option its value, if it still needs one: the value that follows it. -/
def completed (rest : List Part) :
    List (OptionKind × Option String) → Except Stop (List (OptionKind × String) × List Part)
  | [] => .ok ([], rest)
  | (o, some value) :: more => do
    let (options, rest) ← completed rest more
    pure ((o, value) :: options, rest)
  | (o, none) :: more =>
    if o.takesValue then
      match rest with
      | .value s :: rest => do
        let (options, rest) ← completed rest more
        pure ((o, s) :: options, rest)
      | _ => .error .usageError
    else do
      let (options, rest) ← completed rest more
      pure ((o, "") :: options, rest)

/-- The texts of the values at the front. -/
def leadingValues : List Part → List String
  | .value s :: rest => s :: leadingValues rest
  | .endOfOptions :: rest => leadingValues rest
  | _ => []

def afterValues : List Part → List Part
  | .value _ :: rest => afterValues rest
  | .endOfOptions :: rest => afterValues rest
  | parts => parts

/-- Reads parts from left to right. Every round takes at least one part, so `fuel` is their
number. -/
def readParts : (fuel : Nat) → Progress → List Part → Except Stop Progress
  | 0, p, _ => .ok p
  | fuel + 1, p, parts =>
    match parts with
    | [] => .ok p
    | .marked _ .unknown :: rest => readParts fuel { p with leftOver := true } rest
    | .marked _ (.known name o value) :: rest => do
      let given ← optionsOf name o value
      let (options, rest) ← completed rest given
      let a ← p.arguments.withOptions options
      readParts fuel { p with arguments := a } rest
    | parts => readParts fuel (p.withValues (leadingValues parts)) (afterValues parts)

def Arguments.read (argv : List String) : Except Stop Arguments := do
  let parts ← classifyAll argv
  let p ← readParts parts.length {} parts
  if p.leftOver then throw .usageError else pure p.arguments

end CardRules.CommandLine

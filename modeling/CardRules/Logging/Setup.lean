import CardRules.Logging.Rotation
import CardRules.Settings

/-!
# Log handlers

Where the records of a host go. There is at most one handler that writes a file and one that
writes to the console. Setting up again adjusts the handlers that are there; a file handler
gives way to a new one when its file has moved. The environment wins over what is asked for.
Each setup that succeeds leaves one record of itself in the file.
-/

namespace CardRules.Logging

inductive Level where
  | number (n : Int)
  | named (word : String)
  deriving DecidableEq, Repr, Inhabited

namespace Level

def info : Int := 20

def warning : Int := 30

def names : List (String × Int) := [
  ("CRITICAL", 50), ("FATAL", 50), ("ERROR", 40), ("WARN", 30), ("WARNING", warning),
  ("INFO", info), ("DEBUG", 10), ("NOTSET", 0)]

def value? : Level → Option Int
  | number n => some n
  | named w => names.lookup (Text.upper (Text.strip w))

/-- The number of a level; what names none counts as `default`. -/
def value (default : Int) (l : Option Level) : Int := (l.bind value?).getD default

/-- A level that says something: not zero, and not the empty word. -/
def isGiven : Level → Bool
  | number n => n != 0
  | named w => w != ""

def text : Level → String
  | number n => toString n
  | named w => w

end Level

inductive Handler where
  | file (path : Path) (rotation : Rotation) (level : Int)
  | console (level : Int)
  deriving DecidableEq, Repr, Inhabited

namespace Handler

def isFile : Handler → Bool
  | file .. => true
  | console _ => false

def isConsole (h : Handler) : Bool := !h.isFile

def name (h : Handler) : String := if h.isFile then "tcg_file" else "tcg_console"

def level : Handler → Int
  | file _ _ l => l
  | console l => l

def withLevel (l : Int) : Handler → Handler
  | file p r _ => file p r l
  | console _ => console l

end Handler

/-- The root logger lets everything through; the handlers choose. -/
def rootLevel : Int := 10

structure Plan where
  handlers : List Handler := []
  /-- The level of the engine's own logger; zero leaves it to the root. -/
  engineLevel : Int := 0
  disk : Disk := {}
  shared : SharedSettings := {}
  deriving Repr, Inhabited

structure Wanted where
  level : Option Level := none
  logFile : Option String := none
  enableFile : Bool := true
  enableConsole : Bool := false
  consoleLevel : Option Level := some (.named "WARNING")
  /-- The greatest size of a file; without one no file can be opened. -/
  maxBytes : Option Int := some ({} : Rotation).maxBytes
  backupCount : Option Int := ({} : Rotation).backups
  engineLevel : Option Level := none
  deriving Repr, Inhabited

/-- A variable that is set to something. -/
def setVariable (env : Environment) (key : String) : Option String :=
  (env.lookup key).filter (· != "")

/-- The level of the file handler: that of the environment, the one asked for, or that of the
shared settings. -/
def fileLevel (env : Environment) (w : Wanted) (p : Plan) : Except Fault (Level × Plan) :=
  match setVariable env "TCG_LOG_LEVEL" with
  | some word => .ok (.named word, p)
  | none =>
    match w.level.filter (·.isGiven) with
    | some l => .ok (l, p)
    | none => do
      let (s, shared) ← p.shared.get env
      pure (.named s.logLevel, { p with shared := shared })

def defaultFile : String := "logs/tcg.log"

def filePath (env : Environment) (w : Wanted) : String :=
  ((setVariable env "TCG_LOG_FILE").or (w.logFile.filter (· != ""))).getD defaultFile

/-- Whether a handler writes to the file that a path names. A path with steps back is never
taken for the one a handler has. -/
def Handler.writesTo (path : Path) : Handler → Bool
  | file p .. => !path.contains ".." && p == path
  | console _ => false

def openedFile (path : Path) (w : Wanted) (d : Disk) : Except Fault (Disk × Rotation) := do
  match w.maxBytes with
  | none => throw .wrongType
  | some maxBytes => do
    let d ← d.openFile path
    pure (d, ⟨maxBytes, w.backupCount⟩)

/-- Sets up the file handler. An old one for another file is gone even if the new file cannot be
opened; so this also gives the plan that a fault leaves behind. -/
def setUpFile (path : Path) (w : Wanted) (level : Int) (p : Plan) : Plan × Option Fault :=
  match p.disk.makeDirectory path.dropLast with
  | (disk, some f) => ({ p with disk := disk }, some f)
  | (disk, none) =>
    let p := { p with disk := disk }
    if p.handlers.any (·.writesTo path) then
      ({ p with
          handlers := p.handlers.map fun h => if h.isFile then h.withLevel level else h }, none)
    else
      let p := { p with handlers := p.handlers.filter (!·.isFile) }
      match openedFile path.resolve w p.disk with
      | .error f => (p, some f)
      | .ok (disk, rotation) =>
        ({ p with
            disk := disk, handlers := p.handlers ++ [.file path.resolve rotation level] }, none)

def setUpConsole (level : Int) (p : Plan) : Plan :=
  if p.handlers.any (·.isConsole) then
    { p with handlers := p.handlers.map fun h => if h.isConsole then h.withLevel level else h }
  else { p with handlers := p.handlers ++ [.console level] }

/-- How many characters of a record depend on the machine. -/
structure Surroundings where
  /-- In front of the message and behind it: the time, the level, the place in the program, and the
  end of the line. -/
  frame : Nat
  /-- The path of the working directory, with the slash behind it. -/
  root : Nat

def recordSetup (around : Surroundings) (level : Level) (path : Option Path) (console : Bool)
    (p : Plan) : Plan :=
  let place := match path with
    | some path => path.toText
    | none => "None"
  let message := "Logging initialized | level=" ++ level.text ++ " file=" ++ place ++
    " console=" ++ (Json.bool console).shown
  let frame := around.frame + if path.isSome then around.root else 0
  let write (d : Disk) : Handler → Disk
    | .file base rotation least =>
      if least ≤ Level.info then
        d.writeRecord base rotation (frame + message.length) (frame + message.utf8ByteSize)
      else d
    | .console _ => d
  { p with disk := p.handlers.foldl write p.disk }

def setUp (around : Surroundings) (env : Environment) (w : Wanted) (p : Plan) :
    Plan × Option Fault :=
  match fileLevel env w p with
  | .error f => (p, some f)
  | .ok (level, p) =>
    let path := if w.enableFile then some (Path.ofText (filePath env w)) else none
    let (p, failure) := match path with
      | some path => setUpFile path w (Level.value Level.info (some level)) p
      | none => (p, none)
    match failure with
    | some f => (p, some f)
    | none =>
      let p := if w.enableConsole then
          setUpConsole (Level.value Level.warning w.consoleLevel) p
        else p
      let p := match w.engineLevel with
        | some l => { p with engineLevel := Level.value Level.info (some l) }
        | none => p
      (recordSetup around level path w.enableConsole p, none)

end CardRules.Logging

import CardRules.Fault

/-!
# Places for log files

Paths below the working directory and what is known to lie there. A path is kept as it is
written and as it resolves: without empty and `.` parts, and with `..` taking back the part
before it.
-/

namespace CardRules.Logging

abbrev Path := List String

namespace Path

/-- The parts of a written path, without those that stay where they are. -/
def ofText (s : String) : Path := (s.splitOn "/").filter fun part => part != "" && part != "."

/-- One more part behind a resolved path. -/
def enter (p : Path) (part : String) : Path :=
  if part == ".." && p.getLast?.any (· != "..") then p.dropLast else p ++ [part]

/-- The path without steps back, as far as they can be taken. -/
def resolve (p : Path) : Path := p.foldl enter []

/-- Whether a null character stands in a path; no file has such a name. -/
def holdsNull (p : Path) : Bool := p.any (·.contains '\x00')

def toText (p : Path) : String := "/".intercalate p

end Path

def nameLimit : Nat := 255

/-- The files and directories that have been made, at resolved paths, with the sizes of the files
in bytes. -/
structure Disk where
  files : List (Path × Nat) := []
  directories : List Path := []
  deriving Repr, Inhabited

namespace Disk

variable (d : Disk)

def isFile (p : Path) : Bool := d.files.any (·.1 == p)

/-- The working directory, those around it, and those that have been made. -/
def isDirectory (p : Path) : Bool := p.all (· == "..") || d.directories.contains p

def holds (p : Path) : Bool := d.isFile p || d.isDirectory p

def size (p : Path) : Nat := (d.files.lookup p).getD 0

/-- Makes the directories behind `here` that the parts of a path lead through. A file in the way
is a fault; `made` tells whether a directory in front of it is new. Those made before the fault
stay. -/
def makeDirectoriesBelow (here : Path) (made : Bool) : Path → Disk → Disk × Option Fault
  | [], d => (d, none)
  | part :: rest, d =>
    let p := here.enter part
    if d.isDirectory p then makeDirectoriesBelow p made rest d
    else if d.isFile p then (d, some (if made || rest.isEmpty then .fileExists else .notDirectory))
    else if nameLimit < part.utf8ByteSize then (d, some .nameTooLong)
    else makeDirectoriesBelow p true rest { d with directories := d.directories ++ [p] }

/-- Makes a directory with all those on the way. -/
def makeDirectory (p : Path) : Disk × Option Fault :=
  if p.holdsNull then (d, some .nullInText) else makeDirectoriesBelow [] false p d

def openFile (p : Path) : Except Fault Disk :=
  if p.holdsNull then .error .nullInText
  else if d.isDirectory p then .error .isDirectory
  else if p.getLast?.any (nameLimit < ·.utf8ByteSize) then .error .nameTooLong
  else if d.isFile p then .ok d
  else .ok { d with files := d.files ++ [(p, 0)] }

def append (p : Path) (bytes : Nat) : Disk :=
  { d with files := d.files.map fun (q, size) => (q, if q == p then size + bytes else size) }

def remove (p : Path) : Disk := { d with files := d.files.filter (·.1 != p) }

/-- The disk with a file, or a directory and what lies in it, moved to a free place. -/
def move (source dest : Path) : Disk :=
  let moved (p : Path) : Path := if source.isPrefixOf p then dest ++ p.drop source.length else p
  { files := d.files.map fun (p, size) => (moved p, size), directories := d.directories.map moved }

end Disk

end CardRules.Logging

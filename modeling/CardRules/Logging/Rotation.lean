import CardRules.Logging.Disk

/-!
# Rotation of log files

A log file that would grow to its greatest size is renamed to a backup before the next record
is written. Backups are numbered, the newest with one; a backup beyond the greatest number is
dropped. A directory in the place of a backup stops the renaming, and the record is lost.
-/

namespace CardRules.Logging

structure Rotation where
  /-- The size at which a file is put away; zero or less for none. -/
  maxBytes : Int := 2 * 1024 * 1024
  /-- How many backups there are; zero or less for none. Without a number the files cannot be put
  away. -/
  backups : Option Int := some 5
  deriving DecidableEq, Repr, Inhabited

namespace Path

/-- The path of a backup; number zero is the file itself. -/
def backup (p : Path) : (number : Nat) → Path
  | 0 => p
  | n + 1 => p.dropLast ++ [p.getLast?.getD "" ++ "." ++ toString (n + 1)]

end Path

namespace Disk

/-- Gives the file and the backups with a number below `count` the next number each, the highest
first; the flag tells whether no directory was in the way. -/
def shiftBackups (p : Path) : (count : Nat) → Disk → Disk × Bool
  | 0, d => (d, true)
  | n + 1, d =>
    let source := p.backup n
    let dest := p.backup (n + 1)
    if !d.holds source then shiftBackups p n d
    else if d.isDirectory dest then (d, false)
    else shiftBackups p n ((d.remove dest).move source dest)

/-- Puts a file away and opens it again; the flag tells whether the next record is written. -/
def putAway (d : Disk) (p : Path) (r : Rotation) : Disk × Bool :=
  match r.backups with
  | none => (d, false)
  | some count =>
    let (d, done) := d.shiftBackups p count.toNat
    if done && !d.isFile p then ({ d with files := d.files ++ [(p, 0)] }, true) else (d, done)

def writeRecord (d : Disk) (p : Path) (r : Rotation) (length bytes : Nat) : Disk :=
  let full := 0 < r.maxBytes && r.maxBytes ≤ d.size p + length
  let (d, writes) := if full then d.putAway p r else (d, true)
  if writes then d.append p bytes else d

end Disk

end CardRules.Logging

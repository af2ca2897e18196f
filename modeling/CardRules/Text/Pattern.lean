import CardRules.Text.Blank
import CardRules.Text.Case
import CardRules.Text.Digit
import CardRules.Text.Word

/-!
# Patterns of card text

A pattern takes a stretch off the front of a text. A word is compared without regard to
letter case, a run takes as many characters as it can, and of two alternatives the first
that fits is taken. The patterns of this library never need to give characters back: a run
is always followed by characters it does not take.

`Pattern.take?` matches at one place, `Pattern.find?` at the leftmost place,
`Pattern.findAll` at all places from left to right.
-/

namespace CardRules.Text

inductive Pattern where
  /-- The given characters; lower-case letters stand for both cases. -/
  | word (letters : List Char)
  /-- One character of a class. -/
  | one (p : Char → Bool)
  /-- Characters of a class, as many as there are. -/
  | run (p : Char → Bool)
  /-- The edge of a word. -/
  | edge
  | both (first second : Pattern)
  | either (first second : Pattern)
  /-- Nothing, where `inner` does not fit. -/
  | maybe (inner : Pattern)
  /-- A stretch that is reported on its own. -/
  | group (inner : Pattern)

namespace Pattern

instance : Append Pattern := ⟨both⟩
instance : OrElse Pattern := ⟨fun p q => either p (q ())⟩
instance : Coe String Pattern := ⟨fun s => word s.toList⟩

def run1 (p : Char → Bool) : Pattern := one p ++ run p

def gap : Pattern := run isBlank

def space : Pattern := run1 isBlank

def number : Pattern := group (run1 isDigit)

def exactly : List Char → Pattern
  | [] => word []
  | c :: rest => one (· == c) ++ exactly rest

/-- The first alternative that fits; nothing fits an empty list. -/
def anyOf : List Pattern → Pattern
  | [] => one fun _ => false
  | [p] => p
  | p :: rest => either p (anyOf rest)

/-- A stretch taken off the front of a text. -/
structure Taken where
  text : List Char
  groups : List (List Char)
  rest : List Char
  deriving Repr

def takeWord : List Char → List Char → Option Taken
  | [], s => some ⟨[], [], s⟩
  | _ :: _, [] => none
  | l :: ls, c :: cs =>
    if sameLetter l c then (takeWord ls cs).map fun t => { t with text := c :: t.text } else none

/-- Takes a pattern off the front of a text that follows the character `before`. -/
def take? : Pattern → (before : Option Char) → List Char → Option Taken
  | word letters, _, s => takeWord letters s
  | one p, _, s => match s with
    | c :: cs => if p c then some ⟨[c], [], cs⟩ else none
    | [] => none
  | run p, _, s => some ⟨s.takeWhile p, [], s.dropWhile p⟩
  | edge, before, s => if isEdge before s.head? then some ⟨[], [], s⟩ else none
  | both p q, before, s =>
    match p.take? before s with
    | none => none
    | some t =>
      match q.take? (t.text.getLast?.or before) t.rest with
      | none => none
      | some u => some ⟨t.text ++ u.text, t.groups ++ u.groups, u.rest⟩
  | either p q, before, s =>
    match p.take? before s with
    | some t => some t
    | none => q.take? before s
  | maybe p, before, s =>
    match p.take? before s with
    | some t => some t
    | none => some ⟨[], [], s⟩
  | group p, before, s => (p.take? before s).map fun t => { t with groups := [t.text] }

/-- Where a pattern was found: what stands before it, and what it took. -/
structure Found where
  before : List Char
  taken : Taken
  deriving Repr

def find? (p : Pattern) (before : Option Char) : List Char → Option Found
  | [] => (p.take? before []).map (⟨[], ·⟩)
  | c :: cs =>
    match p.take? before (c :: cs) with
    | some t => some ⟨[], t⟩
    | none => (find? p (some c) cs).map fun f => { f with before := c :: f.before }

def firstGroup? (p : Pattern) (s : List Char) : Option (List Char) :=
  (p.find? none s).bind (·.taken.groups.head?)

/-- The groups of all matches from left to right, each starting where the last one ended. -/
def findAll (p : Pattern) (before : Option Char) (s : List Char) : List (List Char) :=
  match p.find? before s with
  | none => []
  | some f =>
    let groups := f.taken.groups
    if f.taken.rest.length < s.length then
      groups ++ findAll p ((f.before ++ f.taken.text).getLast?.or before) f.taken.rest
    else groups
  termination_by s.length

def erase (p : Pattern) (before : Option Char) (s : List Char) : List Char :=
  match p.find? before s with
  | none => s
  | some f =>
    if f.taken.rest.length < s.length then
      f.before ++ erase p ((f.before ++ f.taken.text).getLast?.or before) f.taken.rest
    else s
  termination_by s.length

/-- Whether the pattern takes the whole text; the groups it reports there. -/
def whole? (p : Pattern) (s : List Char) : Option (List (List Char)) :=
  match p.take? none s with
  | some ⟨_, groups, []⟩ => some groups
  | _ => none

/-! ## Nothing is lost -/

theorem takeWord_append {letters s : List Char} {t : Taken} (h : takeWord letters s = some t) :
    t.text ++ t.rest = s := by
  induction letters generalizing s t with
  | nil => simp only [takeWord, Option.some.injEq] at h; simp [← h]
  | cons l ls ih =>
    cases s with
    | nil => simp [takeWord] at h
    | cons c cs =>
      simp only [takeWord] at h
      split at h
      · obtain ⟨u, hu, rfl⟩ := Option.map_eq_some_iff.1 h
        simp [ih hu]
      · simp at h

theorem take?_append {p : Pattern} {before : Option Char} {s : List Char} {t : Taken}
    (h : p.take? before s = some t) : t.text ++ t.rest = s := by
  induction p generalizing before s t with
  | word letters => exact takeWord_append h
  | one p =>
    cases s with
    | nil => simp [take?] at h
    | cons c cs =>
      simp only [take?] at h
      split at h
      · simp only [Option.some.injEq] at h; simp [← h]
      · simp at h
  | run p => simp only [take?, Option.some.injEq] at h; simp [← h]
  | edge =>
    simp only [take?] at h
    split at h
    · simp only [Option.some.injEq] at h; simp [← h]
    · simp at h
  | both p q ihp ihq =>
    simp only [take?] at h
    split at h
    · simp at h
    · rename_i u hu
      split at h
      · simp at h
      · rename_i v hv
        simp only [Option.some.injEq] at h
        simp [← h, ihq hv, ihp hu]
  | either p q ihp ihq =>
    simp only [take?] at h
    split at h
    · rename_i u hu
      simp only [Option.some.injEq] at h
      exact h ▸ ihp hu
    · exact ihq h
  | maybe p ih =>
    simp only [take?] at h
    split at h
    · rename_i u hu
      simp only [Option.some.injEq] at h
      exact h ▸ ih hu
    · simp only [Option.some.injEq] at h; simp [← h]
  | group p ih =>
    simp only [take?] at h
    obtain ⟨u, hu, rfl⟩ := Option.map_eq_some_iff.1 h
    simpa using ih hu

theorem find?_append {p : Pattern} {before : Option Char} {s : List Char} {f : Found}
    (h : p.find? before s = some f) : f.before ++ f.taken.text ++ f.taken.rest = s := by
  induction s generalizing before f with
  | nil =>
    simp only [find?] at h
    obtain ⟨t, ht, rfl⟩ := Option.map_eq_some_iff.1 h
    simpa using take?_append ht
  | cons c cs ih =>
    simp only [find?] at h
    split at h
    · rename_i t ht
      simp only [Option.some.injEq] at h
      simpa [← h] using take?_append ht
    · obtain ⟨g, hg, rfl⟩ := Option.map_eq_some_iff.1 h
      simpa using ih hg

end Pattern

end CardRules.Text

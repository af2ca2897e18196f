import CardRules.Ability.Invocation
import CardRules.Game.Update
import CardRules.Hosted
import CardRules.Target.Matching

/-!
# Scripts

A script is a named behaviour that replaces the resolver of an ability. It works on a game
of its own: the changes it has made stay in its state when it fails, and the caller decides
what to do with them.
-/

namespace CardRules

/-- What a script sees besides the game it works on. -/
structure ScriptContext extends Context where
  /-- The id the script runs under; faults mention it. -/
  scriptId : Option String := none

structure ScriptState where
  game : Game
  journal : Journal := []

abbrev ScriptM (α : Type) := ReaderT ScriptContext (ExceptT Fault (StateM ScriptState)) α

abbrev Script := ScriptM Unit

namespace ScriptM

/-- The outcome of a step and the state it leaves behind. -/
def runIn {α : Type} (step : ScriptM α) (ctx : ScriptContext) (s : ScriptState) :
    Except Fault α × ScriptState :=
  StateT.run (ExceptT.run (ReaderT.run step ctx)) s

def fail {α : Type} (message : String) : ScriptM α := do
  let ctx ← read
  throw (.scriptFailed (some message) ctx.scriptId)

def game : ScriptM Game := do
  let s ← get
  pure s.game

/-- Replaces the game, unless the change is a fault. -/
def change (step : Game → Except Fault Game) : ScriptM Unit := do
  let g ← game
  match step g with
  | .ok g => modify fun s => { s with game := g }
  | .error f => throw f

def record (entry : Json) : ScriptM Unit :=
  modify fun s => { s with journal := s.journal ++ [entry] }

def side (p : Player) : ScriptM Side := do
  let g ← game
  match g.side p with
  | .ok s => pure s
  | .error f => throw f

def firstCardTarget : ScriptM String := do
  let ctx ← read
  match ctx.targets with
  | [] => fail "No target specified"
  | t :: _ =>
    match t.cardId? with
    | some id => pure id
    | none => fail "Invalid target"

def card (id : String) : ScriptM Card := do
  let g ← game
  match g.card? id with
  | some c => pure c
  | none => fail ("Card " ++ id ++ " not found")

/-- The id of the source card, as far as it is known. -/
def sourceId : ScriptM String := do
  let ctx ← read
  match ctx.source, ctx.invocation with
  | some c, _ => pure c.id
  | none, some i => pure i.sourceId
  | none, none => pure ""

def moveCard (id : String) (dest : Zone) : ScriptM Unit := do
  let g ← game
  match g.card? id with
  | none =>
    fail ("Failed to move card " ++ id ++ " to " ++ dest.name ++ ": " ++
      (Fault.noCard none (some id)).message)
  | some _ => change (·.moveCard id dest true)

/-- Draws cards one by one; an empty deck ends the script. -/
def drawCards (p : Player) : (count : Nat) → ScriptM Unit
  | 0 => pure ()
  | count + 1 => do
    let s ← side p
    match s.deck with
    | [] => fail ("Player " ++ p.name ++ " has no cards left in deck")
    | c :: _ =>
      change (·.moveCard c.id .hand true)
      drawCards p count

def addModifier (id : String) (kind : ModifierKind) (value : ModifierValue) (d : Duration) :
    ScriptM Unit := do
  let _ ← card id
  let source ← sourceId
  change (·.addModifier id ⟨kind, value, d, source⟩)

def modifyPower (id : String) (amount : Int) (d : Duration) : ScriptM Unit :=
  addModifier id .power (.amount amount) d

def modifyCost (id : String) (amount : Int) (d : Duration) : ScriptM Unit :=
  addModifier id .cost (.amount amount) d

def grantKeyword (id keyword : String) (d : Duration) : ScriptM Unit :=
  addModifier id .keyword (.word keyword) d

/-- Moves a card out of the character area; `verb` says in a fault what was to be done. -/
def removeCharacter (id : String) (dest : Zone) (verb : String) : ScriptM Unit := do
  let c ← card id
  if c.zone == .characterArea then change (·.moveCard id dest true)
  else fail ("Cannot " ++ verb ++ " " ++ id ++ ": not in the character area")

def koCard (id : String) : ScriptM Unit := removeCharacter id .trash "K.O."

def banishCard (id : String) : ScriptM Unit := removeCharacter id .banished "banish"

def orient (o : Orientation) (id : String) : ScriptM Unit := do
  let _ ← card id
  change (·.updateCard id fun c => { c with orientation := o })

def restCard (id : String) : ScriptM Unit := orient .rested id

def activateCard (id : String) : ScriptM Unit := orient .active id

def searchZone (p : Player) (zone : Zone) (filter : Option TargetFilter) : ScriptM (List Card) := do
  let ctx ← read
  let g ← game
  let s ← side p
  match filter with
  | none => pure (s.cards zone)
  | some f =>
    match Card.testFault? g ctx.bonus ctx.answer.test f (s.cards zone) with
    | some fault => throw fault
    | none => pure ((s.cards zone).filter (Card.fits g ctx.bonus ctx.answer.test f))

end ScriptM

structure ScriptBook where
  entries : List (String × Script) := []

namespace ScriptBook

variable (b : ScriptBook)

def has (id : String) : Bool := (b.entries.lookup id).isSome

def names : List String := b.entries.map (·.1)

def size : Nat := b.entries.length

def find (id : String) : Except Fault Script :=
  match b.entries.lookup id with
  | some s => .ok s
  | none => .error (.noScript none (some id))

/-- Adds a script under an id that is free. -/
def insert (id : String) (s : Script) : Except Fault ScriptBook :=
  if b.has id then .error (.scriptTaken none (some id)) else .ok ⟨b.entries ++ [(id, s)]⟩

theorem find_insert_self {b c : ScriptBook} {id : String} {s : Script}
    (h : b.insert id s = .ok c) : c.find id = .ok s := by
  unfold insert at h
  split at h
  · simp at h
  · rename_i hk
    simp only [Except.ok.injEq] at h
    subst h
    have : b.entries.lookup id = none := by simpa only [has, Option.not_isSome_iff_eq_none] using hk
    simp [find, List.lookup_append, this]

/-- Adds scripts up to the first whose id is taken, and tells its fault. -/
def insertAll : ScriptBook → List (String × Script) → ScriptBook × Option Fault
  | b, [] => (b, none)
  | b, (id, s) :: rest =>
    match b.insert id s with
    | .ok b => insertAll b rest
    | .error f => (b, some f)

def erase (id : String) : ScriptBook := ⟨b.entries.filter (·.1 != id)⟩

def execute (id : String) (ctx : ScriptContext) (s : ScriptState) :
    Except Fault Unit × ScriptState :=
  match b.find id with
  | .error f => (.error f, s)
  | .ok script => script.runIn { ctx with scriptId := some id } s

end ScriptBook

end CardRules

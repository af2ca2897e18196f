import CardRules.Engine.Activate
import CardRules.Record.Game
import CardRules.Record.Replacement

/-!
# Records of listeners

Listeners written as data. A listener waits for one kind of notice, perhaps of one effect,
and answers a limited number of times: it queues an effect, moves a card, clears the stack
and fails, as far as it is told to and in this order. Beside them a witness writes down
every report that is published.
-/

namespace CardRules

open Json

/-- The ability of a card in the game, named by the ids of both with a slash between them. -/
def Game.abilityAt (g : Game) (path : String) : Except Fault Ability := do
  let cardId := path.toList.takeWhile (· != '/')
  let c ← g.card (String.ofList cardId)
  match c.face.ability? (String.ofList (path.toList.drop (cardId.length + 1))) with
  | some a => pure a
  | none => throw .missingKey

def Invocation.ofRecord (g : Game) (j : Json) : Except Fault (Invocation × Option Int) := do
  let a ← match j.field "effect" with
    | .str path => g.abilityAt path
    | described => Ability.ofJson Ability.standInId described
  let i ← Invocation.ofJson a j
  let priority ← asOption asInteger (j.field "priority")
  pure (i, priority)

def NoticeKind.ofJson : Json → Except Fault NoticeKind
  | .str name => match Named.ofName? name with
    | some kind => .ok kind
    | none => .error .missingKey
  | .arr _ | .obj _ => .error .wrongType
  | _ => .error .missingKey

structure ScriptedListener where
  kind : NoticeKind
  effectId : Option String := none
  /-- How often it answers. -/
  times : Nat := 1
  priority : Int := 0
  pushes : Option Json := none
  moves : Option (String × Zone) := none
  clears : Bool := false
  /-- The words in which it fails. -/
  fails : Option String := none

namespace ScriptedListener

def ofJson (j : Json) : Except Fault ScriptedListener := do
  let kind ← NoticeKind.ofJson (j.field "on")
  let effectId ← asOption asText (j.field "effect_id")
  let times ← j.getOr "times" 1 asInteger
  let priority ← j.getOr "priority" 0 asInteger
  let moves ← match j.field "move_card" with
    | .arr [id, zone] => do
      let id ← asText id
      let zone ← asWord Zone zone
      pure (some (id, zone))
    | _ => pure none
  let fails := match j.field "raise" with
    | .null => none
    | .str words => some words
    | _ => some ""
  pure {
    kind := kind, effectId := effectId, times := times.toNat, priority := priority,
    pushes := asOption pure (j.field "push") |>.toOption.join, moves := moves,
    clears := (j.field "clear").isTruthy, fails := fails }

def hears (l : ScriptedListener) (r : Report) : Bool :=
  r.kind == l.kind && l.effectId.all (r.effectId? == some ·)

def reactions (l : ScriptedListener) (g : Game) : List Reaction :=
  let push : List Reaction := match l.pushes with
    | none => []
    | some j => match Invocation.ofRecord g j with
      | .ok (i, priority) => [.push i priority]
      | .error f => [.fail f]
  push ++ (l.moves.toList.map fun (id, zone) => .update (·.moveCard id zone true)) ++
    (if l.clears then [.clear] else []) ++ l.fails.toList.map fun words => .fail (.host words)

end ScriptedListener

/-- What the witness has heard, and how often each listener may still answer. -/
structure Watch where
  heard : List Report := []
  left : List Nat := []

namespace Watch

/-- The label of the witness; listener number `n` has the label `n + 1`. -/
def witness : ListenerId := 0

def react (ls : List ScriptedListener) (id : ListenerId) (n : Notice Report) (g : Game)
    (w : Watch) : List Reaction × Watch :=
  match id with
  | 0 => ([], { w with heard := w.heard ++ [n.payload] })
  | i + 1 =>
    match ls[i]?, w.left[i]? with
    | some l, some (k + 1) =>
      if l.hears n.payload then (l.reactions g, { w with left := w.left.set i k }) else ([], w)
    | _, _ => ([], w)

/-- The host of the given listeners. No chain of notices is longer than the number of answers. -/
def host (ls : List ScriptedListener) : Host Watch where
  react := react ls
  reach := ls.foldr (fun l sum => l.times + sum) 2

def bus (capacity : Option Nat) (ls : List ScriptedListener) : Bus ListenerId Report :=
  ls.zipIdx.foldl (fun b (l, i) => (b.subscribe (some l.kind) (i + 1) l.priority).2)
    ((({ capacity := capacity } : Bus ListenerId Report).subscribe none witness 0).2)

def start (ls : List ScriptedListener) : Watch := { left := ls.map (·.times) }

end Watch

end CardRules

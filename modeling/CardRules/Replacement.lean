import CardRules.Ability.Invocation
import CardRules.Hosted

/-!
# Replacements

Replacement effects replace the cost or the body of other effects before these resolve.
Entries are kept under the card and the effect they come from and are applied from the
lowest priority up, in the order of their registration where priorities are equal. An entry
counts only while its card is on the field.
-/

namespace CardRules

structure Replacement where
  cardId : String
  effectId : String
  priority : Int
  /-- The number of its registration. -/
  order : Nat
  replaceCost : Option (Cost → Context → Hosted Cost) := none
  replaceBody : Option (Invocation → Context → Hosted Invocation) := none

namespace Replacement

def hasKey (cardId effectId : String) (r : Replacement) : Bool :=
  r.cardId == cardId && r.effectId == effectId

def before (a b : Replacement) : Bool :=
  a.priority < b.priority || (a.priority == b.priority && a.order ≤ b.order)

/-- An entry counts while its card is on the field. -/
def isActive (r : Replacement) (ctx : Context) : Bool := ctx.game.isOnField r.cardId

end Replacement

/-- All registered replacements, with the number of registrations so far. -/
structure Replacements where
  entries : List Replacement := []
  registered : Nat := 0

namespace Replacements

variable (rs : Replacements)

def size : Nat := rs.entries.length

/-- Registers a replacement for an ability of a card, which must be a replacement effect. An
entry with the same key gives way to it. -/
def register (cardId : String) (a : Ability) (priority : Int)
    (replaceCost : Option (Cost → Context → Hosted Cost))
    (replaceBody : Option (Invocation → Context → Hosted Invocation)) :
    Except Fault (Replacement × Replacements) :=
  if a.timing = .replacement then
    let r : Replacement :=
      { cardId := cardId, effectId := a.id, priority := priority, order := rs.registered + 1,
        replaceCost := replaceCost, replaceBody := replaceBody }
    .ok (r, ⟨rs.entries.filter (!·.hasKey cardId a.id) ++ [r], rs.registered + 1⟩)
  else
    .error (.invalidEffect
      (some ("Cannot register non-REPLACEMENT effect " ++ a.id ++ " as replacement effect"))
      (some a.kind.name) (some cardId))

def has (cardId effectId : String) : Bool := rs.entries.any (·.hasKey cardId effectId)

def unregister (cardId effectId : String) : Replacements :=
  { rs with entries := rs.entries.filter (!·.hasKey cardId effectId) }

def ofCard (cardId : String) : List Replacement := rs.entries.filter (·.cardId == cardId)

def clearCard (cardId : String) : Replacements :=
  { rs with entries := rs.entries.filter (·.cardId != cardId) }

def clear : Replacements := { rs with entries := [] }

def inOrder : List Replacement := rs.entries.mergeSort Replacement.before

/-- Hands a value from one active entry to the next, through the function each of them has for
such values. -/
def chain {α : Type} (function : Replacement → Option (α → Context → Hosted α)) (ctx : Context) :
    List Replacement → α → Hosted α
  | [], a => pure a
  | r :: rest, a =>
    match function r with
    | some replace =>
      if r.isActive ctx then do
        let a ← replace a ctx
        chain function ctx rest a
      else chain function ctx rest a
    | none => chain function ctx rest a

def applyCost (c : Cost) (ctx : Context) : Hosted Cost := chain (·.replaceCost) ctx rs.inOrder c

def applyBody (i : Invocation) (ctx : Context) : Hosted Invocation :=
  chain (·.replaceBody) ctx rs.inOrder i

end Replacements

end CardRules

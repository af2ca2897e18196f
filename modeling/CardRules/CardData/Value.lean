import CardRules.Ability.Basic
import CardRules.CardData.Problem
import CardRules.Json.Reader

/-!
# Values of card data

How the values of a record are read. Numbers, texts and switches may be written in more ways than
the plain one; which ways these are is left open (`Lenience`). Words of a vocabulary have one
spelling each.
-/

namespace CardRules.CardData

/-- The ways to write texts, whole numbers and switches, and the levels to which conditions and
costs may nest. What is written plainly reads as itself. -/
structure Lenience where
  text : Json → Checked String
  integer : Json → Checked Int
  switch : Json → Checked Bool
  deepest : Nat
  text_str (s : String) : text (.str s) = .valid s
  integer_int (n : Int) : integer (.int n) = .valid n
  switch_bool (b : Bool) : switch (.bool b) = .valid b
  two_le_deepest : 2 ≤ deepest

attribute [simp] Lenience.text_str Lenience.integer_int Lenience.switch_bool

variable (lax : Lenience)

def natural (j : Json) : Checked Int :=
  (lax.integer j).andThen fun n => if n < 0 then .bad .greaterThanEqual else .valid n

/-- A text of at least one character and no more than `most`. -/
def textWithin (most : Option Nat) (j : Json) : Checked String :=
  (lax.text j).andThen fun s =>
    if s.isEmpty then .bad .stringTooShort
    else if most.any (· < s.length) then .bad .stringTooLong
    else .valid s

def word (α : Type) [Named α] : Json → Checked α
  | .str s => match Named.ofName? s with
    | some a => .valid a
    | none => .bad .enum
  | .brokenStr _ => .bad .stringUnicode
  | _ => .bad .enum

def oneOf (words : List String) : Json → Checked String
  | .str s => if words.contains s then .valid s else .bad .literalError
  | .brokenStr _ => .bad .stringUnicode
  | _ => .bad .literalError

/-- A number or a text. What is written plainly stays what it is, so a text that writes a number
stays a text. -/
def operand : Json → Checked Operand
  | .int n => .valid (.int n)
  | .str s => .valid (.text s)
  | j =>
    match lax.text j, lax.integer j with
    | .valid s, _ => .valid (.text s)
    | .invalid _, .valid n => .valid (.int n)
    | .invalid qs, .invalid ps =>
      .invalid (ps.map (·.under (.field "int")) ++ qs.map (·.under (.field "str")))

def optional {α : Type} (value : Json → Checked α) : Json → Checked (Option α)
  | .null => .valid none
  | j => (value j).map some

def list {α : Type} (item : Json → Checked α) : Json → Checked (List α)
  | .arr xs => .all (xs.zipIdx.map fun (x, i) => (item x).under (.item i))
  | _ => .bad .listType

def required {α : Type} (j : Json) (name : String) (value : Json → Checked α) : Checked α :=
  (match j.get? name with
    | some v => value v
    | none => .bad .missing).under (.field name)

/-- A field with a value that counts when it is not there. -/
def field {α : Type} (j : Json) (name : String) (default : α) (value : Json → Checked α) :
    Checked α :=
  match j.get? name with
  | some v => (value v).under (.field name)
  | none => .valid default

def perhaps {α : Type} (j : Json) (name : String) (value : Json → Checked α) :
    Checked (Option α) :=
  field j name none (optional value)

def listed {α : Type} (j : Json) (name : String) (item : Json → Checked α) : Checked (List α) :=
  field j name [] (list item)

/-- A record with the given fields; any other field is a problem, after those of the fields. -/
def model {α : Type} (names : List String) (j : Json) (fields : Checked α) : Checked α :=
  match j with
  | .obj given =>
    let extra := given.filterMap fun (k, _) =>
      if names.contains k then none else some (⟨[.field k], .extraForbidden⟩ : Problem)
    match extra, fields with
    | [], c => c
    | ps, .valid _ => .invalid ps
    | ps, .invalid qs => .invalid (qs ++ ps)
  | _ => .bad .modelType

end CardRules.CardData

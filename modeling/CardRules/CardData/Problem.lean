import CardRules.Json.Fields

/-!
# Problems of card data

Card data are checked in full: a record that is not valid comes with a list of all its
problems, each with its place and its kind. `Checked` is a value or such a list; combining
two of them keeps the problems of both, those of the first in front.
-/

namespace CardRules.CardData

/-- One step into a record: a field, an item of a list, or a member of a choice. -/
inductive Place where
  | field (name : String)
  | item (index : Nat)
  deriving DecidableEq, Repr, Inhabited

inductive ProblemKind where
  | missing
  | extraForbidden
  | stringType
  | stringTooShort
  | stringTooLong
  | stringUnicode
  | intType
  | intParsing
  | intParsingSize
  | intFromFloat
  | finiteNumber
  | greaterThanEqual
  | boolType
  | boolParsing
  | enum
  | literalError
  | listType
  | modelType
  | recursionLoop
  /-- A rule of the record that concerns more than one value, in its own words. -/
  | rule (text : String)
  deriving DecidableEq, Repr, Inhabited

namespace ProblemKind

def name : ProblemKind → String
  | missing => "missing"
  | extraForbidden => "extra_forbidden"
  | stringType => "string_type"
  | stringTooShort => "string_too_short"
  | stringTooLong => "string_too_long"
  | stringUnicode => "string_unicode"
  | intType => "int_type"
  | intParsing => "int_parsing"
  | intParsingSize => "int_parsing_size"
  | intFromFloat => "int_from_float"
  | finiteNumber => "finite_number"
  | greaterThanEqual => "greater_than_equal"
  | boolType => "bool_type"
  | boolParsing => "bool_parsing"
  | enum => "enum"
  | literalError => "literal_error"
  | listType => "list_type"
  | modelType => "model_type"
  | recursionLoop => "recursion_loop"
  | rule _ => "value_error"

end ProblemKind

structure Problem where
  path : List Place
  kind : ProblemKind
  deriving DecidableEq, Repr, Inhabited

def Problem.under (p : Place) (q : Problem) : Problem := { q with path := p :: q.path }

/-- A value, or all that is wrong with it. -/
inductive Checked (α : Type) where
  | valid (value : α)
  | invalid (problems : List Problem)
  deriving Repr

namespace Checked

variable {α β : Type}

def bad (kind : ProblemKind) : Checked α := invalid [⟨[], kind⟩]

def map (f : α → β) : Checked α → Checked β
  | valid a => valid (f a)
  | invalid ps => invalid ps

/-- A function applied to a value, with the problems of both. -/
def ap : Checked (α → β) → Checked α → Checked β
  | valid f, valid a => valid (f a)
  | valid _, invalid ps => invalid ps
  | invalid ps, valid _ => invalid ps
  | invalid ps, invalid qs => invalid (ps ++ qs)

instance : Functor Checked where
  map := map

instance : Applicative Checked where
  pure := valid
  seq f a := ap f (a ())

def andThen (c : Checked α) (check : α → Checked β) : Checked β :=
  match c with
  | valid a => check a
  | invalid ps => invalid ps

def under (p : Place) : Checked α → Checked α
  | valid a => valid a
  | invalid ps => invalid (ps.map (·.under p))

/-- The value, unless a rule speaks against it. -/
def obeying (broken : α → Option String) (c : Checked α) : Checked α :=
  c.andThen fun a => match broken a with
    | some text => bad (.rule text)
    | none => valid a

def all : List (Checked α) → Checked (List α)
  | [] => valid []
  | c :: rest => ap (c.map (· :: ·)) (all rest)

theorem ap_eq_valid_iff {f : Checked (α → β)} {c : Checked α} {b : β} :
    ap f c = valid b ↔ ∃ g a, f = valid g ∧ c = valid a ∧ g a = b := by
  cases f <;> cases c <;> simp [ap]

theorem all_eq_valid_iff {cs : List (Checked α)} {as : List α} :
    all cs = valid as ↔ cs = as.map valid := by
  induction cs generalizing as with
  | nil => cases as <;> simp [all]
  | cons c rest ih =>
    cases as with
    | nil => cases c <;> simp [all, ap_eq_valid_iff, map]
    | cons a as =>
      cases c with
      | invalid ps => simp [all, ap_eq_valid_iff, map]
      | valid v => simp [all, ap_eq_valid_iff, map, ih]; exact and_comm

end Checked

end CardRules.CardData

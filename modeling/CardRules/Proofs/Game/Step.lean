import CardRules.Proofs.Game.Roster
import CardRules.Resolver.Modify
import Mathlib.Logic.Relation

/-!
# Steps of a game

A `Game.Step` is one change that the library knows: a card moves, turns or gets a modifier,
DON!! are rested or given to a card, a player gets a flag. `Game.Reaches` are the runs of
such steps, and `Game.FieldReaches` those that turn cards on the field only. What holds of every
step holds of whatever is made of them: a run keeps the roster of a sound game and the active
player.
-/

namespace CardRules.Game

/-- One change of a game. -/
inductive Step : Game → Game → Prop where
  | move {g h : Game} {id : String} {dest : Zone} {toBottom : Bool} :
      g.moveCard id dest toBottom = .ok h → Step g h
  | orient {g h : Game} {id : String} {o : Orientation} :
      g.updateCard id (fun c => { c with orientation := o }) = .ok h → Step g h
  | modify {g h : Game} {id : String} {m : Modifier} : g.addModifier id m = .ok h → Step g h
  | restDon {g h : Game} {p : Player} {amount : Int} : g.restDon p amount = .ok h → Step g h
  /-- Only the controller gives DON!! to a card, and only to one that takes them. -/
  | giveDon {g h : Game} {c : Card} {amount : Int} {n : Nat} : g.card? c.id = some c →
      Resolver.takesDon c → g.attachDon c.controller c.id amount = .ok (h, n) → Step g h
  | flag {g h : Game} {p : Player} {key : String} {value : Json} :
      g.setFlag p key value = .ok h → Step g h

/-- The second game comes from the first in any number of steps. -/
abbrev Reaches : Game → Game → Prop := Relation.ReflTransGen Step

/-- One change that turns a card, if any, only where it lies on the field or says it does. -/
inductive FieldStep : Game → Game → Prop where
  | move {g h : Game} {id : String} {dest : Zone} {toBottom : Bool} :
      g.moveCard id dest toBottom = .ok h → FieldStep g h
  | turn {g h : Game} {found : Placed} {id : String} {o : Orientation} :
      g.locate? id = some found → found.zone.isField ∨ found.card.onField →
      g.updateCard id (fun c => { c with orientation := o }) = .ok h → FieldStep g h
  | modify {g h : Game} {id : String} {m : Modifier} : g.addModifier id m = .ok h → FieldStep g h
  | restDon {g h : Game} {p : Player} {amount : Int} : g.restDon p amount = .ok h → FieldStep g h
  | giveDon {g h : Game} {c : Card} {amount : Int} {n : Nat} : g.card? c.id = some c →
      Resolver.takesDon c → g.attachDon c.controller c.id amount = .ok (h, n) → FieldStep g h
  | flag {g h : Game} {p : Player} {key : String} {value : Json} :
      g.setFlag p key value = .ok h → FieldStep g h

/-- The second game comes from the first in steps that turn cards on the field only. -/
abbrev FieldReaches : Game → Game → Prop := Relation.ReflTransGen FieldStep

variable {g h k : Game} {p : Player} {id : String}

theorem Step.reaches (h₁ : Step g h) : Reaches g h := .single h₁

theorem FieldStep.step (h₁ : FieldStep g h) : Step g h := by
  cases h₁ with
  | move h₁ => exact .move h₁
  | turn _ _ h₁ => exact .orient h₁
  | modify h₁ => exact .modify h₁
  | restDon h₁ => exact .restDon h₁
  | giveDon hc ht h₁ => exact .giveDon hc ht h₁
  | flag h₁ => exact .flag h₁

theorem FieldStep.reaches (h₁ : FieldStep g h) : FieldReaches g h := .single h₁

theorem FieldReaches.reaches (h₁ : FieldReaches g h) : Reaches g h :=
  Relation.ReflTransGen.mono (fun _ _ h => h.step) _ _ h₁

/-! ## The roster -/

theorem Step.sameRoster (h₁ : Step g h) (hg : g.Distinct) : SameRoster g h := by
  cases h₁ with
  | move h₁ => exact sameRoster_moveCard hg h₁
  | orient h₁ => exact sameRoster_updateCard hg (by exact fun _ => rfl) h₁
  | modify h₁ => exact sameRoster_addModifier hg h₁
  | restDon h₁ => exact sameRoster_restDon hg h₁
  | giveDon _ _ h₁ => exact sameRoster_attachDon hg h₁
  | flag h₁ => exact sameRoster_setFlag hg h₁

/-- No run loses, duplicates or swaps a card. -/
theorem Reaches.sameRoster (h₁ : Reaches g h) (hg : g.Distinct) : SameRoster g h := by
  induction h₁ with
  | refl => exact .refl g
  | tail _ h₂ ih => exact ih.trans (h₂.sameRoster (hg.of_sameRoster ih))

/-! ## The turn -/

theorem activePlayer_returnDon {dons : List Don} (h₁ : g.returnDon dons = .ok h) :
    h.activePlayer = g.activePlayer := by
  induction dons generalizing g with
  | nil =>
    cases h₁
    rfl
  | cons d rest ih =>
    obtain ⟨s, -, h₁⟩ := returnDon_cases h₁
    have hrest := ih h₁
    exact hrest

theorem activePlayer_releaseDon {c : Card} {origin dest : Zone}
    (h₁ : g.releaseDon c origin dest = .ok h) : h.activePlayer = g.activePlayer := by
  unfold releaseDon at h₁
  split at h₁
  · exact activePlayer_returnDon h₁
  · cases h₁
    rfl

/-- Only a new turn has another active player. -/
theorem Step.activePlayer (h₁ : Step g h) : h.activePlayer = g.activePlayer := by
  cases h₁ with
  | move h₁ =>
    obtain ⟨found, holder, released, receiver, -, -, -, hdon, -, cards, -, -, rfl⟩ :=
      moveCard_cases h₁
    have hreleased := activePlayer_releaseDon hdon
    exact hreleased
  | orient h₁ | modify h₁ =>
    obtain ⟨found, s, cards, -, -, -, -, rfl⟩ := updateCard_cases h₁
    rfl
  | restDon h₁ =>
    obtain ⟨s, ids, -, rfl⟩ := restDon_cases h₁
    rfl
  | giveDon _ _ h₁ =>
    obtain rfl | ⟨s, chosen, -, -, hk⟩ := attachDon_cases h₁
    · rfl
    · obtain ⟨found, s, cards, -, -, -, -, rfl⟩ := updateCard_cases hk
      rfl
  | flag h₁ =>
    obtain ⟨s, -, rfl⟩ := setFlag_cases h₁
    rfl

theorem Reaches.activePlayer (h₁ : Reaches g h) : h.activePlayer = g.activePlayer := by
  induction h₁ with
  | refl => rfl
  | tail _ h₂ ih => exact h₂.activePlayer.trans ih

end CardRules.Game

import CardRules.Resolver.Basic
import CardRules.Text.Blank

/-!
# Modifiers, orientation and DON!!

Abilities that change cards where they lie.
-/

namespace CardRules.Resolver

def attachModifier (kind : ModifierKind) (value : ModifierValue) (i : Invocation) (c : Card)
    (g : Game) : Except Fault Game :=
  g.addModifier c.id
    ⟨kind, value, i.ability.parameters.duration.getD .permanent, i.sourceId⟩

def powerModification : Resolver :=
  onCards "PowerModificationResolver" (·.ability.parameters.powerChange.isSome) fun i =>
    attachModifier .power (.amount (i.ability.parameters.powerChange.getD 0)) i

def grantedKeyword (i : Invocation) : String :=
  Text.strip (i.ability.parameters.keyword.getD "")

def grantKeyword : Resolver :=
  onCards "GrantKeywordResolver" (grantedKeyword · != "") fun i =>
    attachModifier .keyword (.word (grantedKeyword i)) i

/-- Turns a character in the character area; one that already lies so is left alone. -/
def orient (o : Orientation) (c : Card) (g : Game) : Except Fault Game :=
  if c.isFieldCharacter && c.orientation != o then
    g.updateCard c.id fun d => { d with orientation := o }
  else .ok g

def restCharacter : Resolver :=
  onCards "RestCharacterResolver" (fun _ => true) fun _ => orient .rested

def activateCharacter : Resolver :=
  onCards "ActivateCharacterResolver" (fun _ => true) fun _ => orient .active

def takesDon (c : Card) : Bool :=
  (c.face.category == .leader || c.face.category == .character) &&
    (c.zone == .leaderArea || c.zone == .characterArea)

/-- Gives DON!! of its controller to a card, one unless the ability says how many. -/
def giveDon (i : Invocation) (c : Card) (g : Game) : Except Fault Game :=
  if takesDon c then
    (g.attachDon c.controller c.id (i.ability.parameters.value.getD 1)).map (·.1)
  else .ok g

def attachDon : Resolver := onCards "AttachDonResolver" (fun _ => true) giveDon

end CardRules.Resolver

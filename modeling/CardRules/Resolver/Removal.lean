import CardRules.Resolver.Basic

/-!
# Removing characters

K.O., bounce and banishment move characters off the field, as long as they keep within the
limits of the ability.
-/

namespace CardRules.Resolver

/-- Whether a card keeps within the limits on power and cost. -/
def withinLimits (bonus : DonBonus) (ps : Parameters) (c : Card) (g : Game) : Bool :=
  ps.maxPower.all (g.effectivePower bonus c ≤ ·) && ps.maxCost.all (c.cost ≤ ·)

def removeCharacter (bonus : DonBonus) (dest : Zone) (i : Invocation) (c : Card) (g : Game) :
    Except Fault Game :=
  if c.isFieldCharacter && withinLimits bonus i.ability.parameters c g then
    g.moveCard c.id dest true
  else .ok g

def koCharacter (bonus : DonBonus) : Resolver :=
  onCards "KOCharacterResolver" (fun _ => true) (removeCharacter bonus .trash)

def bounceCharacter (bonus : DonBonus) : Resolver :=
  onCards "BounceCharacterResolver" (fun _ => true) (removeCharacter bonus .hand)

def banishCharacter (bonus : DonBonus) : Resolver :=
  onCards "BanishCharacterResolver" (fun _ => true) (removeCharacter bonus .banished)

end CardRules.Resolver

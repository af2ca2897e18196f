import CardRules.Game.Basic
import CardRules.Text.Search

/-!
# Matching cards

Whether a card fits a target filter, as it stands in the game, or search criteria, by what
is printed on it. Words are compared without regard to letter case. A filter may end with a test of
the host, which may fail.
-/

namespace CardRules

def sharesWord (xs ys : List String) : Bool :=
  xs.any fun x => ys.any fun y => Text.lower x == Text.lower y

/-- How a host's own tests of cards turn out in a game: whether the card with an id passes, or a
failure. A test goes by the ids that are written for it. -/
abbrev CardTest := List String → String → Game → Except Fault Bool

def CardTest.written : CardTest := fun ids id _ => .ok (ids.contains id)

namespace Card

/-- Whether the card fits a filter, the host's own test apart. Whose card it is and where it lies
are not looked at. -/
def suits (g : Game) (bonus : DonBonus) (f : TargetFilter) (c : Card) : Bool :=
  (f.category.isEmpty || f.category.contains c.face.category) &&
  (f.color.isEmpty || sharesWord (f.color.map (·.name)) c.face.colors) &&
  f.costRange.all (·.contains c.cost) &&
  f.powerRange.all (·.contains (g.effectivePower bonus c)) &&
  (f.state.isEmpty || f.state.contains c.orientation) &&
  f.hasKeyword.all c.hasKeyword &&
  !f.lacksKeyword.any c.hasKeyword &&
  (f.typeTags.isEmpty || sharesWord f.typeTags c.face.typeTags) &&
  (f.attributes.isEmpty || sharesWord f.attributes c.face.attributes)

/-- Whether the card fits a filter. The host's own test is asked last, about a card that suits the
filter in all else. -/
def judge (g : Game) (bonus : DonBonus) (test : CardTest) (f : TargetFilter) (c : Card) :
    Except Fault Bool :=
  if c.suits g bonus f then
    match f.only with
    | none => .ok true
    | some ids => test ids c.id g
  else .ok false

/-- A card on which the host's test fails does not fit. -/
def fits (g : Game) (bonus : DonBonus) (test : CardTest) (f : TargetFilter) (c : Card) : Bool :=
  match c.judge g bonus test f with
  | .ok b => b
  | .error _ => false

/-- The fault of the first card on which the host's test fails. -/
def testFault? (g : Game) (bonus : DonBonus) (test : CardTest) (f : TargetFilter)
    (cards : List Card) : Option Fault :=
  cards.findSome? fun c =>
    match c.judge g bonus test f with
    | .ok _ => none
    | .error fault => some fault

theorem testFault?_of_only {g : Game} {bonus : DonBonus} {test : CardTest} {f : TargetFilter}
    {cards : List Card} (h : f.only = none) : testFault? g bonus test f cards = none := by
  rw [testFault?, List.findSome?_eq_none_iff]
  intro c _
  rw [judge, h]
  cases c.suits g bonus f <;> rfl

def meets (criteria : SearchCriteria) (c : Card) : Bool :=
  (criteria.category.isEmpty || criteria.category.contains c.face.category) &&
  (criteria.color.isEmpty || sharesWord (criteria.color.map (·.name)) c.face.colors) &&
  criteria.cost.all (·.contains c.face.printedCost) &&
  criteria.power.all (·.contains c.face.printedPower) &&
  (criteria.typeTags.isEmpty || sharesWord criteria.typeTags c.face.typeTags) &&
  (criteria.attributes.isEmpty || sharesWord criteria.attributes c.face.attributes) &&
  criteria.keywords.all c.hasKeyword &&
  criteria.nameContains.all fun part =>
    Text.contains (Text.lower part).toList (Text.lower c.face.name).toList

end Card

end CardRules

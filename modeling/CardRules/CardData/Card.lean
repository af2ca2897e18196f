import CardRules.CardData.Ability
import CardRules.CardText.Abilities
import CardRules.Game.Card

/-!
# Cards in card data

A card record gives the face of a card. Its abilities are listed; if none are, they are read
off its text.
-/

namespace CardRules.CardData

variable (lax : Lenience)

def idLength : Nat := 32

def keywords (j : Json) : Checked (List String) :=
  ((list lax.text j).obeying fun ks =>
    if ks.any fun k => (Text.strip k).isEmpty then some "keywords cannot be blank" else none).map
    (·.map Text.strip)

/-- The abilities of a card: those listed, or else those of its text. -/
def cardAbilities (id : String) (written : Option String) (given : List Ability) : List Ability :=
  if given.isEmpty then
    (written.map (CardText.abilities CardText.Rule.standard id)).getD []
  else given.map (ofCard id)

def face (j : Json) : Checked CardFace :=
  model ["id", "name", "category", "colors", "type_tags", "attributes", "power", "cost", "life",
      "counter", "keywords", "effect_text", "effects"] j
    ((fun id name category colors typeTags attributes power cost life counter keywords written
          given =>
        { id := id, name := name, category := category, colors := colors.map (·.name),
          typeTags := typeTags, attributes := attributes, basePower := power, baseCost := cost,
          life := life, counter := counter, keywords := keywords,
          abilities := cardAbilities id written given })
      <$> required j "id" (textWithin lax (some idLength))
      <*> required j "name" (textWithin lax none)
      <*> required j "category" (word Category) <*> listed j "colors" (word Color)
      <*> listed j "type_tags" lax.text <*> listed j "attributes" lax.text
      <*> perhaps j "power" (natural lax) <*> perhaps j "cost" (natural lax)
      <*> perhaps j "life" (natural lax) <*> perhaps j "counter" (natural lax)
      <*> field j "keywords" [] (keywords lax) <*> perhaps j "effect_text" lax.text
      <*> listed j "effects" (ability lax))

/-- The records that a value holds: the items of a list, the keys of an object, the characters
of a text. Other values hold none that could be walked through. -/
def records : Json → Except Fault (List Json)
  | .arr items => .ok items
  | .obj fields => .ok (fields.map fun (k, _) => .str k)
  | .str s | .brokenStr s => .ok (s.toList.map fun c => .str (String.ofList [c]))
  | _ => .error .wrongType

/-- The faces of several cards, up to the first record that is not valid. -/
def faces : List Json → Checked (List CardFace)
  | [] => .valid []
  | j :: rest =>
    match face lax j with
    | .invalid ps => .invalid ps
    | .valid f => (faces rest).map (f :: ·)

end CardRules.CardData

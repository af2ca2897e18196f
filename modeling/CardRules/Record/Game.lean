import CardRules.CardText.Abilities
import CardRules.Game.Update
import CardRules.Record.Ability

/-!
# Records of games

The JSON forms of cards and games. A record of a game is read with defaults for all that it
does not give; DON!! may be given by letters. What is written is what moves in a game: cards
with their places, modifiers and DON!!, but not their faces.
-/

namespace CardRules

open Json

namespace CardFace

def toJson (f : CardFace) : Json :=
  .obj [
    ("id", .str f.id), ("name", .str f.name), ("category", .str f.category.name),
    ("colors", ofTexts f.colors), ("type_tags", ofTexts f.typeTags),
    ("attributes", ofTexts f.attributes), ("base_power", ofOption .int f.basePower),
    ("base_cost", ofOption .int f.baseCost), ("life", ofOption .int f.life),
    ("counter", ofOption .int f.counter), ("keywords", ofTexts f.keywords),
    ("effects", .arr (f.abilities.map (·.toJson)))]

end CardFace

def ModifierValue.ofJson : Json → Except Fault ModifierValue
  | .bool b => .ok (.flag b)
  | .null => .ok .nothing
  | .int n => .ok (.amount n)
  | j => (asText j).map .word

def ModifierValue.toJson : ModifierValue → Json
  | .amount n => .int n
  | .word s => .str s
  | .flag b => .bool b
  | .nothing => .null

namespace Modifier

/-- A modifier, written as a list of its kind, value, duration and source. -/
def ofJson : Json → Except Fault Modifier
  | .arr [kind, value, duration, source] => do
    let kind ← asWord ModifierKind kind
    let value ← ModifierValue.ofJson value
    let duration ← asWord Duration duration
    let source ← asText source
    pure ⟨kind, value, duration, source⟩
  | _ => .error .wrongType

def toJson (m : Modifier) : Json :=
  .arr [.str m.kind.name, m.value.toJson, .str m.duration.name, .str m.source]

end Modifier

namespace Don

def orientationOfLetter : Char → Except Fault Orientation
  | 'A' => .ok .active
  | 'R' => .ok .rested
  | 'N' => .ok .none
  | _ => .error .missingKey

/-- The DON!! of a place: listed, or one for each letter of a text. -/
def listOfJson (stem : String) (owner : Player) (zone : Zone) : Json → Except Fault (List Don)
  | .str letters => letters.toList.zipIdx.mapM fun (c, i) => do
      let orientation ← orientationOfLetter c
      pure { id := stem ++ "-don-" ++ toString i, owner := owner, zone := zone,
             orientation := orientation }
  | j => asList (fun d => do
      let id ← d.need "id" asText
      let owner ← d.getOr "owner" owner (asWord Player)
      let zone ← d.getOr "zone" zone (asWord Zone)
      let orientation ← d.getOr "state" .active (asWord Orientation)
      pure { id := id, owner := owner, zone := zone, orientation := orientation }) j

def toJson (d : Don) : Json := ofTexts [d.id, d.owner.name, d.zone.name, d.orientation.name]

end Don

namespace Card

/-- A card of a player in a zone. Its abilities are listed, written as card text, or both. -/
def ofJson (player : Player) (zone : Zone) (j : Json) : Except Fault Card := do
  let id ← j.need "id" asText
  let faceId ← j.getOr "def_id" id asText
  let name ← j.getOr "name" id asText
  let category ← j.getOr "category" .character (asWord Category)
  let colors ← j.listAt "colors" asText
  let typeTags ← j.listAt "type_tags" asText
  let attributes ← j.listAt "attributes" asText
  let power ← asOption asInteger (j.field "power")
  let cost ← asOption asInteger (j.field "cost")
  let life ← asOption asInteger (j.field "life")
  let counter ← asOption asInteger (j.field "counter")
  let keywords ← j.listAt "keywords" asText
  let owner ← j.getOr "owner" player (asWord Player)
  let controller ← j.getOr "controller" player (asWord Player)
  let zone ← j.getOr "zone" zone (asWord Zone)
  let orientation ← j.getOr "state" (if zone.isField then .active else .none)
    (asWord Orientation)
  let modifiers ← j.listAt "modifiers" Modifier.ofJson
  let givenDon ← j.getOr "given_don" [] (Don.listOfJson id owner .characterArea)
  let listed ← j.listAt "effects" (Ability.ofJson id)
  let written := match j.field "effect_text" with
    | .str s => CardText.abilities CardText.Rule.standard id s
    | _ => []
  pure {
    id := id, owner := owner, controller := controller, zone := zone, orientation := orientation,
    modifiers := modifiers, givenDon := givenDon,
    face := {
      id := faceId, name := name, category := category, colors := colors, typeTags := typeTags,
      attributes := attributes, basePower := power, baseCost := cost, life := life,
      counter := counter, keywords := keywords, abilities := listed ++ written } }

def toJson (c : Card) : Json :=
  .arr [
    .str c.id, .str c.owner.name, .str c.controller.name, .str c.zone.name,
    .str c.orientation.name, .arr (c.modifiers.map (·.toJson)), .arr (c.givenDon.map (·.toJson))]

end Card

namespace Side

def ofJson (player : Player) (j : Json) : Except Fault Side := do
  let cards (key : String) (zone : Zone) : Except Fault (List Card) :=
    j.listAt key (Card.ofJson player zone)
  let deck ← cards "deck" .deck
  let hand ← cards "hand" .hand
  let trash ← cards "trash" .trash
  let life ← cards "life" .life
  let banished ← cards "banished" .banished
  let characters ← cards "characters" .characterArea
  let leader ← asOption (Card.ofJson player .leaderArea) (j.field "leader")
  let stage ← asOption (Card.ofJson player .stageArea) (j.field "stage")
  let donDeck ← j.getOr "don_deck" [] (Don.listOfJson (player.name ++ "-dd") player .donDeck)
  let costArea ← j.getOr "cost_area" [] (Don.listOfJson player.name player .costArea)
  pure {
    player := player, deck := deck, hand := hand, trash := trash, life := life,
    banished := banished, donDeck := donDeck, costArea := costArea, leader := leader,
    characters := characters, stage := stage, flags := (j.field "flags").fields }

def toJson (s : Side) : Json :=
  let cards (xs : List Card) : Option Json := some (.arr (xs.map (·.toJson)))
  sparse [
    ("deck", cards s.deck), ("hand", cards s.hand), ("trash", cards s.trash),
    ("life", cards s.life), ("banished", cards s.banished), ("characters", cards s.characters),
    ("leader", s.leader.map (·.toJson)), ("stage", s.stage.map (·.toJson)),
    ("don_deck", some (.arr (s.donDeck.map (·.toJson)))),
    ("cost_area", some (.arr (s.costArea.map (·.toJson)))),
    ("flags", if s.flags.isEmpty then none else some (.obj s.flags))]

end Side

namespace Game

def ofJson (j : Json) : Except Fault Game := do
  let sides ← (j.field "players").fields.mapM fun (name, s) => do
    let player ← asWord Player (.str name)
    Side.ofJson player s
  let active ← j.getOr "active_player" .one (asWord Player)
  let phase ← j.getOr "phase" .main (asWord Phase)
  let turn ← j.getOr "turn_number" (some 1) (asOption asInteger)
  pure { sides := sides, activePlayer := active, phase := phase, turn := turn }

def toJson (g : Game) : Json :=
  .obj [
    ("active_player", .str g.activePlayer.name), ("phase", .str g.phase.name),
    ("turn_number", ofOption .int g.turn),
    ("players", .obj (g.sides.map fun s => (s.player.name, s.toJson)))]

end Game

namespace Context

/-- The context that a record describes in a game. An id that no card has is no source. -/
def ofJson (g : Game) (sharedBonus : Int) (j : Json) : Except Fault Context := do
  let controller ← j.getOr "controller" .one (asWord Player)
  let targets ← j.listAt "targets" Target.ofJson
  let source := match j.field "source" with
    | .str id => g.card? id
    | _ => none
  let own ← asOption asInteger (j.field "don_power_bonus")
  let ability ← asOption (Ability.ofJson Ability.standInId) (j.field "effect")
  let invocation ← ability.mapM fun a => Invocation.ofJson a j
  pure {
    game := g, source := source, controller := controller, targets := targets,
    values := (j.field "values").fields, invocation := invocation, bonus := ⟨own, sharedBonus⟩ }

end Context

end CardRules

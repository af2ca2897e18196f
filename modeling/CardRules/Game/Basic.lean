import CardRules.Game.Card

/-!
# Games

A side holds the zones of one player; a table holds the sides and the turn. A game is a
table with a revision, which moves on whenever a side or the turn is replaced: two games of
one history with the same revision are the same game.

Cards are looked up side by side in the order of the table, and zone by zone in the order of
`Zone.ofCards`.
-/

namespace CardRules

structure Side where
  player : Player
  deck : List Card := []
  hand : List Card := []
  trash : List Card := []
  life : List Card := []
  banished : List Card := []
  donDeck : List Don := []
  costArea : List Don := []
  leader : Option Card := none
  characters : List Card := []
  stage : Option Card := none
  flags : List (String × Json) := []
  deriving Repr, Inhabited

namespace Side

variable (s : Side)

/-- The cards of a zone, the top card of the deck first. Zones of DON!! hold no cards. -/
def cards : Zone → List Card
  | .deck => s.deck
  | .hand => s.hand
  | .trash => s.trash
  | .life => s.life
  | .banished => s.banished
  | .characterArea => s.characters
  | .leaderArea => s.leader.toList
  | .stageArea => s.stage.toList
  | .donDeck => []
  | .costArea => []

/-- The side with the cards of a zone replaced, as far as the zone can hold them. -/
def putCards (zone : Zone) (cards : List Card) : Side :=
  match zone with
  | .deck => { s with deck := cards }
  | .hand => { s with hand := cards }
  | .trash => { s with trash := cards }
  | .life => { s with life := cards }
  | .banished => { s with banished := cards }
  | .characterArea => { s with characters := cards }
  | .leaderArea => { s with leader := cards.head? }
  | .stageArea => { s with stage := cards.head? }
  | .donDeck | .costArea => s

def fits (zone : Zone) (count : Nat) : Bool := zone.holdsCards && (!zone.isSlot || count ≤ 1)

def misfit (zone : Zone) : Fault :=
  .badValue (zone.name ++
    (if zone.isSlot then " holds at most one card" else " does not hold cards"))

/-- The side with the cards of a zone replaced, if the zone can hold them. -/
def withCards (zone : Zone) (cards : List Card) : Except Fault Side :=
  if fits zone cards.length then .ok (s.putCards zone cards) else .error (misfit zone)

def activeDon : List Don := s.costArea.filter (·.isActive)

/-- Leader, characters and stage. -/
def fieldCards : List Card := s.leader.toList ++ s.characters ++ s.stage.toList

/-- All DON!! the player has in play: in the cost area and on field cards. -/
def donInPlay : Nat := s.costArea.length + (s.fieldCards.flatMap (·.givenDon)).length

variable {s : Side} {zone : Zone} {cards : List Card}

@[simp] theorem player_putCards : (s.putCards zone cards).player = s.player := by
  cases zone <;> rfl

@[simp] theorem costArea_putCards : (s.putCards zone cards).costArea = s.costArea := by
  cases zone <;> rfl

theorem cards_putCards (h : fits zone cards.length) :
    (s.putCards zone cards).cards zone = cards := by
  cases zone <;> first
    | rfl
    | (obtain _ | ⟨c, _ | ⟨d, rest⟩⟩ := cards <;>
        simp_all [fits, Zone.holdsCards, Zone.ofCards, Zone.isSlot, putCards, Side.cards])

theorem cards_putCards_of_ne {other : Zone} (h : other ≠ zone) :
    (s.putCards zone cards).cards other = s.cards other := by
  cases zone <;> cases other <;> first | rfl | exact absurd rfl h

theorem withCards_eq_ok_iff {t : Side} :
    s.withCards zone cards = .ok t ↔ fits zone cards.length ∧ s.putCards zone cards = t := by
  simp only [withCards]
  split <;> simp_all

end Side

/-- The sides in their order, and the turn. -/
structure Table where
  sides : List Side
  activePlayer : Player := .one
  phase : Phase := .main
  /-- The number of the turn, where turns are counted. -/
  turn : Option Int := some 1
  deriving Repr, Inhabited

/-- A table at one point of its history. -/
structure Game extends Table where
  revision : Nat := 0
  deriving Repr, Inhabited

/-- A card together with the place where it was found. -/
structure Placed where
  player : Player
  zone : Zone
  card : Card
  deriving Repr, Inhabited

namespace Game

variable (g : Game)

def side? (p : Player) : Option Side := g.sides.find? (·.player == p)

/-- The side of a player, or the fault that names the missing seat. -/
def side (p : Player) : Except Fault Side :=
  match g.side? p with
  | some s => .ok s
  | none => .error (.noPlayer none (some p.seat))

/-- The side of a player who must be there; a missing seat is a look-up without a hit. -/
def seatedSide (p : Player) : Except Fault Side :=
  match g.side? p with
  | some s => .ok s
  | none => .error .missingKey

/-- The game with the side of one player replaced, or added at the end. -/
def setSide (s : Side) : Game :=
  let sides :=
    if (g.side? s.player).isSome then g.sides.map fun t => if t.player = s.player then s else t
    else g.sides ++ [s]
  { g with sides := sides, revision := g.revision + 1 }

def setTurn (activePlayer : Player) (phase : Phase) (turn : Option Int) : Game :=
  { g with activePlayer := activePlayer, phase := phase, turn := turn, revision := g.revision + 1 }

def placed : List Placed :=
  g.sides.flatMap fun s => Zone.ofCards.flatMap fun z => (s.cards z).map (⟨s.player, z, ·⟩)

def locate? (id : String) : Option Placed := g.placed.find? (·.card.id == id)

def card? (id : String) : Option Card := (g.locate? id).map (·.card)

def card (id : String) : Except Fault Card :=
  match g.card? id with
  | some c => .ok c
  | none => .error (.noCard none (some id))

def isOnField (id : String) : Bool := (g.locate? id).any (·.zone.isField)

/-- The power of a card with its attached DON!!, which count on the turn of its controller. -/
def effectivePower (bonus : DonBonus) (c : Card) : Int :=
  if !c.givenDon.isEmpty && c.controller == g.activePlayer then
    c.power + c.givenDon.length * bonus.value
  else c.power

variable {g : Game} {s : Side} {p : Player} {id : String}

theorem player_of_side? (h : g.side? p = some s) : s.player = p := by
  simpa using List.find?_some h

theorem id_of_locate? {found : Placed} (h : g.locate? id = some found) : found.card.id = id := by
  simpa using List.find?_some h

theorem mem_placed {found : Placed} :
    found ∈ g.placed ↔ ∃ s ∈ g.sides,
      s.player = found.player ∧ found.zone ∈ Zone.ofCards ∧ found.card ∈ s.cards found.zone := by
  simp only [placed, List.mem_flatMap, List.mem_map]
  constructor
  · rintro ⟨s, hs, z, hz, c, hc, rfl⟩
    exact ⟨s, hs, rfl, hz, hc⟩
  · rintro ⟨s, hs, hp, hz, hc⟩
    exact ⟨s, hs, found.zone, hz, found.card, hc, by rw [hp]⟩

@[simp] theorem side?_setSide_self : (g.setSide s).side? s.player = some s := by
  unfold setSide side?
  by_cases h : (g.sides.find? (·.player == s.player)).isSome
  · obtain ⟨t, ht⟩ := Option.isSome_iff_exists.1 h
    have hp : t.player = s.player := by simpa using List.find?_some ht
    simp only [h, if_true, List.find?_map]
    have : ((·.player == s.player) ∘ fun t : Side => if t.player = s.player then s else t) =
        (·.player == s.player) := by
      funext t
      by_cases h : t.player = s.player <;> simp [h]
    rw [this, ht]
    simp [hp]
  · have h' : g.sides.find? (·.player == s.player) = none := by simpa using h
    simp [h', List.find?_append]

theorem side?_setSide_of_ne (h : s.player ≠ p) : (g.setSide s).side? p = g.side? p := by
  unfold setSide side?
  dsimp only
  split
  · have : ((·.player == p) ∘ fun t : Side => if t.player = s.player then s else t) =
        (·.player == p) := by
      funext t
      by_cases ht : t.player = s.player <;> simp [ht]
    rw [List.find?_map, this]
    cases hf : g.sides.find? (·.player == p) with
    | none => rfl
    | some t =>
      have hp : t.player = p := by simpa using List.find?_some hf
      simp [hp, Ne.symm h]
  · simp [List.find?_append, h]

end Game

end CardRules

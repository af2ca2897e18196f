import CardRules.Resolver.Modify
import Mathlib.Data.List.Nodup
import Mathlib.Data.List.Perm.Basic

/-!
# The roster of a game

`Game.cards` are the cards in all zones of all sides. A game is `Sound` when both players sit at
the table, each once, and no two cards share an id; `Distinct` leaves out that both are there.
What no effect may change about a card is its `Card.identity`: its id, its owner and its face.
`SameRoster g h` says that `h` seats the players of `g` and holds the same identities, each as
often.

A side is cut into one zone and the other zones (`Side.cardsBut`), a game into one side and the
other sides (`Game.cards_setSide`); each change of a game touches one zone of one side at a
time, so each lemma here is about one such cut.
-/

namespace CardRules

/-- A list without repeated keys is any of its items followed by those with other keys. -/
theorem perm_cons_filter_key {α β : Type} [DecidableEq β] (key : α → β) {x : α} :
    ∀ {xs : List α}, (xs.map key).Nodup → x ∈ xs →
      xs.Perm (x :: xs.filter fun y => key y != key x) := by
  intro xs hn hx
  induction xs with
  | nil => cases hx
  | cons y ys ih =>
    rw [List.map_cons, List.nodup_cons] at hn
    rcases List.mem_cons.1 hx with rfl | hx
    · have hrest : ys.filter (fun z => key z != key x) = ys := by
        refine List.filter_eq_self.2 fun z hz => ?_
        have hzx : key z ≠ key x := fun e => hn.1 (e ▸ List.mem_map_of_mem hz)
        simpa using hzx
      simp [hrest]
    · have hyx : key y ≠ key x := fun e => hn.1 (e ▸ List.mem_map_of_mem hx)
      simp only [bne_iff_ne, ne_eq, hyx, not_false_eq_true, List.filter_cons_of_pos]
      exact ((ih hn.2 hx).cons y).trans (.swap x y _)

/-- Replacing the item with a key leaves the items with other keys. -/
theorem perm_cons_map_key {α β : Type} [DecidableEq β] (key : α → β) (y : α) {x : α} {xs : List α}
    (hn : (xs.map key).Nodup) (hx : x ∈ xs) :
    (xs.map fun z => if key z == key x then y else z).Perm
      (y :: xs.filter fun z => key z != key x) := by
  have hp := (perm_cons_filter_key key hn hx).map fun z => if key z == key x then y else z
  have hrest : (xs.filter fun z => key z != key x).map (fun z => if key z == key x then y else z) =
      xs.filter fun z => key z != key x := by
    conv_rhs => rw [← List.map_id (xs.filter _)]
    refine List.map_congr_left fun z hz => ?_
    have hne : key z ≠ key x := by simpa using (List.mem_filter.1 hz).2
    simp [hne]
  rw [List.map_cons, hrest] at hp
  simpa using hp

/-- A list without repeated keys has one item for each of its keys. -/
theorem find?_key_of_mem {α β : Type} [DecidableEq β] (key : α → β) {xs : List α} {x : α}
    (hn : (xs.map key).Nodup) (hx : x ∈ xs) : xs.find? (key · == key x) = some x := by
  cases hf : xs.find? (key · == key x) with
  | none =>
    have := List.find?_eq_none.1 hf x hx
    simp at this
  | some y =>
    have hy : key y = key x := by simpa using List.find?_some hf
    rw [List.inj_on_of_nodup_map hn (List.mem_of_find?_eq_some hf) hx hy]

/-- The card itself, apart from where and how it lies. -/
def Card.identity (c : Card) : String × Player × CardFace := (c.id, c.owner, c.face)

@[simp] theorem Card.identity_arriving (c : Card) (origin dest : Zone) :
    (Game.arriving c origin dest).identity = c.identity := by
  unfold Game.arriving
  split <;> rfl

/-- The card with DON!! put on it, behind those it has. -/
def Card.take (c : Card) (chosen : List Don) : Card :=
  { c with givenDon := c.givenDon ++ chosen.map fun d => { d with zone := .characterArea } }

@[simp] theorem Card.take_nil (c : Card) : c.take [] = c := by simp [Card.take]

namespace Side

/-- The side without the DON!! that are given away. -/
def spend (s : Side) (chosen : List Don) : Side :=
  { s with costArea := s.costArea.filter fun d => !(chosen.map (·.id)).contains d.id }

@[simp] theorem spend_nil (s : Side) : s.spend [] = s := by simp [Side.spend]

/-- The side with DON!! of its cost area rested. -/
def rest (s : Side) (ids : List String) : Side :=
  { s with costArea := s.costArea.map fun d =>
      if ids.contains d.id then { d with orientation := .rested } else d }

/-- The side with a DON!! back in its cost area, rested. -/
def regain (s : Side) (d : Don) : Side :=
  { s with costArea := s.costArea ++ [{ d with zone := .costArea, orientation := .rested }] }

/-- The cards of all zones, zone by zone in the order of look-up. -/
def allCards (s : Side) : List Card := Zone.ofCards.flatMap s.cards

/-- The cards of all zones but one. -/
def cardsBut (s : Side) (zone : Zone) : List Card := (Zone.ofCards.erase zone).flatMap s.cards

variable {s : Side} {zone : Zone} {cards : List Card}

theorem allCards_perm (h : zone ∈ Zone.ofCards) :
    s.allCards.Perm (s.cards zone ++ s.cardsBut zone) := by
  simpa [allCards, cardsBut] using (List.perm_cons_erase h).flatMap_right s.cards

@[simp] theorem cardsBut_putCards : (s.putCards zone cards).cardsBut zone = s.cardsBut zone := by
  unfold cardsBut
  refine List.flatMap_congr fun z hz => cards_putCards_of_ne ?_
  rintro rfl
  exact (show Zone.ofCards.Nodup by decide).not_mem_erase hz

/-- Where a card lies, cards can lie. -/
theorem mem_ofCards_of_mem {c : Card} (hc : c ∈ s.cards zone) : zone ∈ Zone.ofCards := by
  cases zone <;> first | decide | cases hc

theorem mem_ofCards_of_fits {n : Nat} (h : fits zone n) : zone ∈ Zone.ofCards := by
  simp only [fits, Zone.holdsCards, Bool.and_eq_true, List.contains_iff_mem] at h
  exact h.1

/-- Replacing the cards of a zone leaves the cards of the others. -/
theorem allCards_putCards (h : fits zone cards.length) :
    (s.putCards zone cards).allCards.Perm (cards ++ s.cardsBut zone) := by
  have hp := allCards_perm (s := s.putCards zone cards) (mem_ofCards_of_fits h)
  rwa [cards_putCards h, cardsBut_putCards] at hp

end Side

namespace Game

/-- The players at the table, in the order of their sides. -/
def seats (g : Game) : List Player := g.sides.map (·.player)

/-- All cards of all sides. -/
def cards (g : Game) : List Card := g.sides.flatMap Side.allCards

/-- No player sits at the table twice, and no two cards share an id. -/
structure Distinct (g : Game) : Prop where
  seatsOnce : g.seats.Nodup
  idsOnce : (g.cards.map (·.id)).Nodup

/-- Both players sit at the table, each once, and no two cards share an id. -/
structure Sound (g : Game) : Prop extends Distinct g where
  present : ∀ p, p ∈ g.seats

/-- The same players and the same cards, wherever these lie now. -/
structure SameRoster (g h : Game) : Prop where
  seats : h.seats = g.seats
  cards : (h.cards.map Card.identity).Perm (g.cards.map Card.identity)

variable {g h k : Game} {s t : Side} {p : Player} {id : String}

theorem SameRoster.refl (g : Game) : SameRoster g g := ⟨rfl, .refl _⟩

theorem SameRoster.trans (h₁ : SameRoster g h) (h₂ : SameRoster h k) : SameRoster g k :=
  ⟨h₂.seats.trans h₁.seats, h₂.cards.trans h₁.cards⟩

theorem Distinct.of_sameRoster (hg : g.Distinct) (h₁ : SameRoster g h) : h.Distinct where
  seatsOnce := h₁.seats ▸ hg.seatsOnce
  idsOnce := by
    have hp := h₁.cards.map (·.1)
    simp only [List.map_map] at hp
    exact hp.nodup_iff.2 hg.idsOnce

theorem Sound.of_sameRoster (hg : g.Sound) (h₁ : SameRoster g h) : h.Sound where
  toDistinct := hg.toDistinct.of_sameRoster h₁
  present p := h₁.seats ▸ hg.present p

/-! ## Sides -/

theorem mem_of_side? (hs : g.side? p = some s) : s ∈ g.sides := List.mem_of_find?_eq_some hs

/-- A side is found under its player. -/
theorem side?_player (hs : g.side? p = some s) : g.side? s.player = some s := by
  rw [player_of_side? hs, hs]

theorem side?_of_mem (hn : g.seats.Nodup) (hs : s ∈ g.sides) : g.side? s.player = some s :=
  find?_key_of_mem Side.player hn hs

theorem isSome_side?_iff : (g.side? p).isSome ↔ p ∈ g.seats := by
  simp [side?, seats, List.find?_isSome]

theorem seatedSide_eq_ok_iff : g.seatedSide p = .ok s ↔ g.side? p = some s := by
  unfold seatedSide
  split <;> simp_all

theorem side_eq_ok_iff : g.side p = .ok s ↔ g.side? p = some s := by
  unfold side
  split <;> simp_all

theorem setSide_sides (ht : g.side? s.player = some t) :
    (g.setSide s).sides = g.sides.map fun t => if t.player = s.player then s else t := by
  simp [setSide, ht]

theorem seats_setSide (ht : g.side? s.player = some t) : (g.setSide s).seats = g.seats := by
  unfold seats
  rw [setSide_sides ht, List.map_map]
  refine List.map_congr_left fun u _ => ?_
  by_cases hu : u.player = s.player <;> simp [hu]

/-- The sides of all players but one. -/
def others (g : Game) (p : Player) : List Side := g.sides.filter (·.player != p)

theorem sides_perm (hn : g.seats.Nodup) (hs : g.side? p = some s) :
    g.sides.Perm (s :: g.others p) := by
  have hp := perm_cons_filter_key Side.player hn (mem_of_side? hs)
  rwa [player_of_side? hs] at hp

/-- Replacing a side leaves the others. -/
@[simp] theorem others_setSide : (g.setSide s).others s.player = g.others s.player := by
  unfold others setSide
  dsimp only
  split
  · have hcomp : (fun t : Side => t.player != s.player) ∘
        (fun t => if t.player = s.player then s else t) = fun t => t.player != s.player := by
      funext t
      by_cases ht : t.player = s.player <;> simp [ht]
    rw [List.filter_map, hcomp]
    conv_rhs => rw [← List.map_id (g.sides.filter _)]
    refine List.map_congr_left fun t ht => ?_
    have hne : t.player ≠ s.player := by simpa using (List.mem_filter.1 ht).2
    simp [hne]
  · simp [List.filter_append]

theorem sides_setSide_perm (hn : g.seats.Nodup) (ht : g.side? s.player = some t) :
    (g.setSide s).sides.Perm (s :: g.others s.player) := by
  have hp := sides_perm (g := g.setSide s) (by rwa [seats_setSide ht]) side?_setSide_self
  rwa [others_setSide] at hp

/-- What is the same on the old and on the new side of a player is the same in the game. -/
theorem map_setSide {α : Type} {f : Side → α} (hn : g.seats.Nodup)
    (hs : g.side? t.player = some s) (hf : f t = f s) :
    (g.setSide t).sides.map f = g.sides.map f := by
  rw [setSide_sides hs, List.map_map]
  refine List.map_congr_left fun u hu => ?_
  by_cases hp : u.player = t.player
  · have hsame : g.side? u.player = some u := side?_of_mem hn hu
    rw [hp, hs] at hsame
    obtain rfl := Option.some.inj hsame
    simp [hp, hf]
  · simp [hp]

/-- The cards of all sides but one player's. -/
def cardsBut (g : Game) (p : Player) : List Card :=
  (g.sides.filter (·.player != p)).flatMap Side.allCards

theorem cards_perm (hn : g.seats.Nodup) (hs : g.side? p = some s) :
    g.cards.Perm (s.allCards ++ g.cardsBut p) :=
  (sides_perm hn hs).flatMap_right Side.allCards

theorem cards_setSide (hn : g.seats.Nodup) (ht : g.side? s.player = some t) :
    (g.setSide s).cards.Perm (s.allCards ++ g.cardsBut s.player) :=
  (sides_setSide_perm hn ht).flatMap_right Side.allCards

/-- A game is one zone of a side and the rest; replacing the cards of the zone leaves the rest. -/
theorem exists_rest_of_putCards {zone : Zone} {cards : List Card} (hn : g.seats.Nodup)
    (hs : g.side? p = some s) (hf : Side.fits zone cards.length) :
    ∃ rest, g.cards.Perm (s.cards zone ++ rest) ∧
      (g.setSide (s.putCards zone cards)).cards.Perm (cards ++ rest) := by
  have hp : s.player = p := player_of_side? hs
  refine ⟨s.cardsBut zone ++ g.cardsBut p, ?_, ?_⟩
  · have hz := Side.allCards_perm (s := s) (Side.mem_ofCards_of_fits hf)
    rw [← List.append_assoc]
    exact (cards_perm hn hs).trans (hz.append_right _)
  · have hput := cards_setSide (s := s.putCards zone cards) hn (by simpa using side?_player hs)
    rw [Side.player_putCards, hp] at hput
    rw [← List.append_assoc]
    exact hput.trans ((Side.allCards_putCards hf).append_right _)

/-! ## Cards -/

theorem map_card_placed (g : Game) : g.placed.map (·.card) = g.cards := by
  simp only [placed, cards, List.map_flatMap, List.map_map]
  congr 1
  funext s
  congr 1
  funext z
  exact List.map_id _

/-- With distinct ids a card is found where it lies. -/
theorem locate?_of_mem {c : Card} (zone : Zone) (hg : g.Distinct) (hs : g.side? p = some s)
    (hz : zone ∈ Zone.ofCards) (hc : c ∈ s.cards zone) :
    g.locate? c.id = some ⟨p, zone, c⟩ := by
  have hn : (g.placed.map (·.card.id)).Nodup := by
    have hids := hg.idsOnce
    rwa [← map_card_placed, List.map_map] at hids
  have hq : (⟨p, zone, c⟩ : Placed) ∈ g.placed :=
    mem_placed.2 ⟨s, mem_of_side? hs, player_of_side? hs, hz, hc⟩
  exact find?_key_of_mem (fun q : Placed => q.card.id) hn hq

/-- A card that is found lies in the zone of the side where it was found. -/
theorem holder_of_locate? {found : Placed} (hn : g.seats.Nodup)
    (hl : g.locate? id = some found) :
    ∃ s, g.side? found.player = some s ∧ found.zone ∈ Zone.ofCards ∧
      found.card ∈ s.cards found.zone := by
  obtain ⟨s, hs, hp, hz, hc⟩ := mem_placed.1 (List.mem_of_find?_eq_some hl)
  exact ⟨s, hp ▸ side?_of_mem hn hs, hz, hc⟩

theorem idsOnce_of_zone (zone : Zone) (hg : g.Distinct) (hs : g.side? p = some s)
    (hz : zone ∈ Zone.ofCards) : ((s.cards zone).map (·.id)).Nodup := by
  have hp := ((cards_perm hg.seatsOnce hs).trans
    ((Side.allCards_perm hz).append_right _)).map (·.id)
  have hn := hp.nodup_iff.1 hg.idsOnce
  simp only [List.map_append, List.append_assoc] at hn
  exact hn.of_append_left

/-! ## What the operations do -/

/-- The game with a card taken out of a zone. -/
def takeOut (g : Game) (s : Side) (zone : Zone) (id : String) : Game :=
  g.setSide (s.putCards zone ((s.cards zone).filter (·.id != id)))

/-- A card is changed in the zone where it is found. -/
theorem updateCard_cases {f : Card → Card} (h : g.updateCard id f = .ok k) :
    ∃ found s cards, g.locate? id = some found ∧ g.side? found.player = some s ∧
      cards = (s.cards found.zone).map (fun c => if c.id == id then f found.card else c) ∧
      Side.fits found.zone cards.length ∧ k = g.setSide (s.putCards found.zone cards) := by
  unfold updateCard at h
  split at h
  · cases h
  · rename_i found hl
    obtain ⟨s, hs, h⟩ := ok_of_bind h
    obtain ⟨t, ht, h⟩ := ok_of_bind h
    cases h
    rw [seatedSide_eq_ok_iff] at hs
    obtain ⟨hf, rfl⟩ := Side.withCards_eq_ok_iff.1 ht
    exact ⟨found, s, _, hl, hs, rfl, hf, rfl⟩

theorem restDon_cases {amount : Int} (h : g.restDon p amount = .ok k) :
    ∃ s ids, g.side? p = some s ∧ k = g.setSide (s.rest ids) := by
  obtain ⟨s, hs, h⟩ := ok_of_bind h
  rw [side_eq_ok_iff] at hs
  simp only [] at h
  split at h
  · cases h
  · cases h
    exact ⟨s, _, hs, rfl⟩

theorem setFlag_cases {key : String} {value : Json} (h : g.setFlag p key value = .ok k) :
    ∃ s, g.side? p = some s ∧
      k = g.setSide { s with flags := Json.setField key value s.flags } := by
  obtain ⟨s, hs, h⟩ := ok_of_bind h
  rw [side_eq_ok_iff] at hs
  cases h
  exact ⟨s, hs, rfl⟩

/-- DON!! come back one by one, each to its owner. -/
theorem returnDon_cases {d : Don} {dons : List Don} (h : g.returnDon (d :: dons) = .ok k) :
    ∃ s, g.side? d.owner = some s ∧ (g.setSide (s.regain d)).returnDon dons = .ok k := by
  obtain ⟨s, hs, h⟩ := ok_of_bind h
  rw [seatedSide_eq_ok_iff] at hs
  exact ⟨s, hs, h⟩

/-- A move takes a card out of its zone, releases its DON!! and puts it down at one end of the
other zone. -/
theorem moveCard_cases {dest : Zone} {toBottom : Bool} (h : g.moveCard id dest toBottom = .ok k) :
    ∃ found holder released receiver, g.locate? id = some found ∧
      g.side? found.player = some holder ∧
      Side.fits found.zone ((holder.cards found.zone).filter (·.id != id)).length ∧
      (g.takeOut holder found.zone id).releaseDon found.card found.zone dest = .ok released ∧
      released.side? (if dest.isField then found.card.controller else found.card.owner) =
        some receiver ∧
      ∃ cards, (cards = receiver.cards dest ++ [arriving found.card found.zone dest] ∨
          cards = arriving found.card found.zone dest :: receiver.cards dest) ∧
        Side.fits dest cards.length ∧ k = released.setSide (receiver.putCards dest cards) := by
  unfold moveCard at h
  split at h
  · cases h
  · rename_i found hl
    obtain ⟨holder, hs, h⟩ := ok_of_bind h
    obtain ⟨emptied, he, h⟩ := ok_of_bind h
    obtain ⟨released, hdon, h⟩ := ok_of_bind h
    obtain ⟨receiver, hr, h⟩ := ok_of_bind h
    obtain ⟨filled, hfill, h⟩ := ok_of_bind h
    cases h
    rw [seatedSide_eq_ok_iff] at hs hr
    obtain ⟨hf, rfl⟩ := Side.withCards_eq_ok_iff.1 he
    obtain ⟨hf', rfl⟩ := Side.withCards_eq_ok_iff.1 hfill
    refine ⟨found, holder, released, receiver, hl, hs, hf, hdon, hr, _, ?_, hf', rfl⟩
    cases toBottom
    · exact .inr rfl
    · exact .inl rfl

/-- Giving DON!! does nothing, or moves the first ones of a cost area to a card. -/
theorem attachDon_cases {amount : Int} {n : Nat} (h : g.attachDon p id amount = .ok (k, n)) :
    k = g ∨ ∃ s chosen, g.side? p = some s ∧ chosen <+: donOrder s.costArea ∧
      (g.setSide (s.spend chosen)).updateCard id (·.take chosen) = .ok k := by
  obtain ⟨s, hs, h⟩ := ok_of_bind h
  rw [side_eq_ok_iff] at hs
  simp only [] at h
  split at h
  · cases h
    exact .inl rfl
  · obtain ⟨k', hk, h⟩ := ok_of_bind h
    cases h
    have hfirst := firstItems_prefix amount (donOrder s.costArea)
    exact .inr ⟨s, _, hs, hfirst, hk⟩

/-! ## Changes keep the roster -/

/-- Replacing a side by one with the same cards. -/
theorem sameRoster_setSide (hg : g.Distinct) (hs : g.side? p = some s) (hp : t.player = s.player)
    (hc : t.allCards = s.allCards) : SameRoster g (g.setSide t) := by
  have ht : g.side? t.player = some s := by rw [hp, side?_player hs]
  refine ⟨seats_setSide ht, ?_⟩
  have hafter := cards_setSide hg.seatsOnce ht
  rw [hc] at hafter
  exact (hafter.trans (cards_perm hg.seatsOnce ht).symm).map _

/-- Changing a card leaves the others. -/
theorem cards_updateCard {f : Card → Card} (hg : g.Distinct) (h : g.updateCard id f = .ok k) :
    ∃ found rest, g.locate? id = some found ∧ g.cards.Perm (found.card :: rest) ∧
      k.cards.Perm (f found.card :: rest) := by
  obtain ⟨found, s, cards, hl, hs, rfl, hf, rfl⟩ := updateCard_cases h
  obtain ⟨s', hs', hz, hmem⟩ := holder_of_locate? hg.seatsOnce hl
  obtain rfl : s' = s := Option.some.inj (hs'.symm.trans hs)
  obtain ⟨rest, hbefore, hafter⟩ := exists_rest_of_putCards hg.seatsOnce hs hf
  have hids := idsOnce_of_zone _ hg hs hz
  have hcut := perm_cons_filter_key Card.id hids hmem
  have hput := perm_cons_map_key Card.id (f found.card) hids hmem
  rw [id_of_locate? hl] at hcut hput
  exact ⟨found, _, hl, hbefore.trans (hcut.append_right rest),
    hafter.trans (hput.append_right rest)⟩

/-- What putting cards does not touch is the same when a card is changed. -/
theorem map_updateCard {α : Type} {v : Side → α} {f : Card → Card} (hn : g.seats.Nodup)
    (hv : ∀ s zone cards, v (s.putCards zone cards) = v s) (h : g.updateCard id f = .ok k) :
    k.sides.map v = g.sides.map v := by
  obtain ⟨found, s, cards, -, hs, -, -, rfl⟩ := updateCard_cases h
  exact map_setSide hn (by simpa using side?_player hs) (hv s _ _)

theorem sameRoster_updateCard {f : Card → Card} (hg : g.Distinct)
    (hc : ∀ c, (f c).identity = c.identity) (h : g.updateCard id f = .ok k) :
    SameRoster g k := by
  obtain ⟨found, rest, -, hbefore, hafter⟩ := cards_updateCard hg h
  refine ⟨map_updateCard hg.seatsOnce (fun s zone cards => Side.player_putCards) h, ?_⟩
  have hafter := hafter.map Card.identity
  rw [List.map_cons, hc] at hafter
  exact hafter.trans (hbefore.map Card.identity).symm

theorem sameRoster_addModifier {m : Modifier} (hg : g.Distinct) (h : g.addModifier id m = .ok k) :
    SameRoster g k :=
  sameRoster_updateCard (f := fun c => { c with modifiers := c.modifiers ++ [m] }) hg
    (fun _ => rfl) h

theorem sameRoster_restDon {amount : Int} (hg : g.Distinct) (h : g.restDon p amount = .ok k) :
    SameRoster g k := by
  obtain ⟨s, ids, hs, rfl⟩ := restDon_cases h
  exact sameRoster_setSide hg hs rfl rfl

theorem sameRoster_returnDon {dons : List Don} (hg : g.Distinct) (h : g.returnDon dons = .ok k) :
    SameRoster g k := by
  induction dons generalizing g with
  | nil => cases h; exact .refl _
  | cons d rest ih =>
    obtain ⟨s, hs, h⟩ := returnDon_cases h
    have h₁ : SameRoster g (g.setSide (s.regain d)) := sameRoster_setSide hg hs rfl rfl
    exact h₁.trans (ih (hg.of_sameRoster h₁) h)

theorem sameRoster_releaseDon {c : Card} {origin dest : Zone} (hg : g.Distinct)
    (h : g.releaseDon c origin dest = .ok k) : SameRoster g k := by
  unfold releaseDon at h
  split at h
  · exact sameRoster_returnDon hg h
  · cases h; exact .refl g

theorem sameRoster_attachDon {amount : Int} {n : Nat} (hg : g.Distinct)
    (h : g.attachDon p id amount = .ok (k, n)) : SameRoster g k := by
  obtain rfl | ⟨s, chosen, hs, -, hk⟩ := attachDon_cases h
  · exact .refl k
  · have h₁ : SameRoster g (g.setSide (s.spend chosen)) := sameRoster_setSide hg hs rfl rfl
    exact h₁.trans (sameRoster_updateCard (f := (·.take chosen)) (hg.of_sameRoster h₁)
      (fun _ => rfl) hk)

theorem sameRoster_setFlag {key : String} {value : Json} (hg : g.Distinct)
    (h : g.setFlag p key value = .ok k) : SameRoster g k := by
  obtain ⟨s, hs, rfl⟩ := setFlag_cases h
  exact sameRoster_setSide hg hs rfl rfl

/-- Taking a card out of its zone. -/
theorem cards_takeOut {found : Placed} {holder : Side} (hg : g.Distinct)
    (hl : g.locate? id = some found) (hs : g.side? found.player = some holder)
    (hf : Side.fits found.zone ((holder.cards found.zone).filter (·.id != id)).length) :
    g.cards.Perm (found.card :: (g.takeOut holder found.zone id).cards) := by
  obtain ⟨s, hs', hz, hmem⟩ := holder_of_locate? hg.seatsOnce hl
  obtain rfl : s = holder := Option.some.inj (hs'.symm.trans hs)
  obtain ⟨rest, hbefore, hafter⟩ := exists_rest_of_putCards hg.seatsOnce hs hf
  have hcut := perm_cons_filter_key Card.id (idsOnce_of_zone _ hg hs hz) hmem
  rw [id_of_locate? hl] at hcut
  exact hbefore.trans ((hcut.append_right rest).trans (hafter.symm.cons _))

theorem seats_putCards {zone : Zone} {cards : List Card} (hs : g.side? p = some s) :
    (g.setSide (s.putCards zone cards)).seats = g.seats :=
  seats_setSide (t := s) (by simpa using side?_player hs)

theorem distinct_takeOut {found : Placed} {holder : Side} (hg : g.Distinct)
    (hl : g.locate? id = some found) (hs : g.side? found.player = some holder)
    (hf : Side.fits found.zone ((holder.cards found.zone).filter (·.id != id)).length) :
    (g.takeOut holder found.zone id).Distinct where
  seatsOnce := (seats_putCards hs).symm ▸ hg.seatsOnce
  idsOnce := by
    have hout := ((cards_takeOut hg hl hs hf).map (·.id)).nodup_iff.1 hg.idsOnce
    exact (List.nodup_cons.1 hout).2

/-- Putting a card into a zone, at either end. -/
theorem cards_added {receiver : Side} {zone : Zone} {c : Card} {cards : List Card}
    (hn : g.seats.Nodup) (hs : g.side? p = some receiver) (hf : Side.fits zone cards.length)
    (hc : cards = receiver.cards zone ++ [c] ∨ cards = c :: receiver.cards zone) :
    (g.setSide (receiver.putCards zone cards)).cards.Perm (c :: g.cards) := by
  obtain ⟨rest, hbefore, hafter⟩ := exists_rest_of_putCards hn hs hf
  have hend : cards.Perm (c :: receiver.cards zone) := by
    rcases hc with rfl | rfl
    · exact List.perm_append_singleton c _
    · exact .refl _
  exact hafter.trans ((hend.append_right rest).trans (hbefore.symm.cons c))

theorem sameRoster_moveCard {dest : Zone} {toBottom : Bool} (hg : g.Distinct)
    (h : g.moveCard id dest toBottom = .ok k) : SameRoster g k := by
  obtain ⟨found, holder, released, receiver, hl, hs, hf, hdon, hr, cards, hc, hf', rfl⟩ :=
    moveCard_cases h
  have hout := cards_takeOut hg hl hs hf
  have htaken := distinct_takeOut hg hl hs hf
  have hret := sameRoster_releaseDon htaken hdon
  have hin := cards_added (hret.seats ▸ htaken.seatsOnce) hr hf' hc
  refine ⟨(seats_putCards hr).trans (hret.seats.trans (seats_putCards hs)), ?_⟩
  have h₁ := hin.map Card.identity
  rw [List.map_cons, Card.identity_arriving] at h₁
  exact h₁.trans ((hret.cards.cons _).trans (hout.map Card.identity).symm)

/-! ## A small game -/

/-- A character of the first player with an id and a place. -/
def member (id : String) (zone : Zone) (o : Orientation) : Card where
  id := id
  face := { id := "C-01", name := "Member", category := .character, baseCost := some 2 }
  owner := .one
  controller := .one
  zone := zone
  orientation := o

/-- The first player has cards to draw, to play and in play, and two DON!!. -/
def openingSide : Side where
  player := .one
  deck := [member "d1" .deck .none, member "d2" .deck .none]
  hand := [member "h1" .hand .none]
  characters := [member "c1" .characterArea .active]
  costArea := [⟨"don1", .one, .costArea, .active⟩, ⟨"don2", .one, .costArea, .active⟩]

def opening : Game where
  sides := [openingSide, { player := .two }]

theorem sound_opening : opening.Sound where
  present p := by cases p <;> decide
  seatsOnce := by decide
  idsOnce := by decide

end Game

end CardRules

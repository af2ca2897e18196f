import CardRules.Proofs.Game.Placement

/-!
# Places

`Game.placed` tells of every card where it lies. In a game with distinct ids this is all there is
to know about its cards: a card is found by its id exactly where it lies (`locate?_eq_some_iff`),
and a move puts one card down elsewhere and leaves each other card as it lies
(`mem_placed_moveCard`).

In a game whose cards also say where they lie, with DON!! on the field only, every step keeps it so
(`Reaches.wellPlaced`).
-/

namespace CardRules

/-- A card that goes to a zone, with the place where it arrives. -/
def Placed.landing (q : Placed) (dest : Zone) : Placed where
  player := if dest.isField then q.card.controller else q.card.owner
  zone := dest
  card := Game.arriving q.card q.zone dest

namespace Side

variable {s : Side} {zone : Zone} {m n : Nat}

/-- What lies in a zone has room there. -/
theorem fits_cards (hz : zone ∈ Zone.ofCards) : fits zone (s.cards zone).length := by
  have hslot : ∀ c : Option Card, c.toList.length ≤ 1 := fun c => by cases c <;> simp
  cases zone with
  | donDeck | costArea => simp [Zone.ofCards] at hz
  | leaderArea => simp [fits, Zone.holdsCards, Zone.ofCards, cards, hslot s.leader]
  | stageArea => simp [fits, Zone.holdsCards, Zone.ofCards, cards, hslot s.stage]
  | deck | hand | trash | life | banished | characterArea => rfl

theorem fits_of_le (h : m ≤ n) (hf : fits zone n) : fits zone m := by
  simp only [fits, Bool.and_eq_true, Bool.or_eq_true, decide_eq_true_eq] at hf ⊢
  exact ⟨hf.1, hf.2.imp_right (Nat.le_trans h)⟩

end Side

namespace Game

variable {g h k : Game} {s : Side} {p : Player} {id : String} {q : Placed}

theorem mem_placed_iff (hn : g.seats.Nodup) : q ∈ g.placed ↔
    ∃ s, g.side? q.player = some s ∧ q.zone ∈ Zone.ofCards ∧ q.card ∈ s.cards q.zone := by
  rw [mem_placed]
  constructor
  · rintro ⟨s, hs, hp, hz, hc⟩
    exact ⟨s, hp ▸ side?_of_mem hn hs, hz, hc⟩
  · rintro ⟨s, hs, hz, hc⟩
    exact ⟨s, mem_of_side? hs, player_of_side? hs, hz, hc⟩

theorem locate?_eq_some_iff (hg : g.Distinct) :
    g.locate? id = some q ↔ q ∈ g.placed ∧ q.card.id = id := by
  constructor
  · exact fun hl => ⟨List.mem_of_find?_eq_some hl, id_of_locate? hl⟩
  · rintro ⟨hq, rfl⟩
    obtain ⟨s, hs, hz, hc⟩ := (mem_placed_iff hg.seatsOnce).1 hq
    exact locate?_of_mem q.zone hg hs hz hc

theorem card?_eq_some_iff {c : Card} (hg : g.Distinct) :
    g.card? id = some c ↔ c ∈ g.cards ∧ c.id = id := by
  rw [card?, Option.map_eq_some_iff, ← map_card_placed, List.mem_map]
  constructor
  · rintro ⟨q, hl, rfl⟩
    obtain ⟨hq, hid⟩ := (locate?_eq_some_iff hg).1 hl
    exact ⟨⟨q, hq, rfl⟩, hid⟩
  · rintro ⟨⟨q, hq, rfl⟩, hid⟩
    exact ⟨q, (locate?_eq_some_iff hg).2 ⟨hq, hid⟩, rfl⟩

theorem eq_of_id_eq {r : Placed} (hg : g.Distinct) (hq : q ∈ g.placed) (hr : r ∈ g.placed)
    (hid : q.card.id = r.card.id) : q = r := by
  have hl := (locate?_eq_some_iff hg).2 ⟨hq, hid⟩
  rw [(locate?_eq_some_iff hg).2 ⟨hr, rfl⟩] at hl
  exact (Option.some.inj hl).symm

/-- No card lies in two places. -/
theorem place_eq_of_id_eq {t : Side} {r : Player} {zone other : Zone} {c d : Card}
    (hg : g.Distinct) (hs : g.side? p = some s) (ht : g.side? r = some t) (hc : c ∈ s.cards zone)
    (hd : d ∈ t.cards other) (hid : c.id = d.id) : p = r ∧ zone = other ∧ c = d := by
  have hlc := locate?_of_mem zone hg hs (Side.mem_ofCards_of_mem hc) hc
  rw [hid, locate?_of_mem other hg ht (Side.mem_ofCards_of_mem hd) hd] at hlc
  cases hlc
  exact ⟨rfl, rfl, rfl⟩

theorem isOnField_iff :
    g.isOnField id ↔ ∃ found, g.locate? id = some found ∧ found.zone.isField := by
  rw [isOnField, Option.any_eq_true]

theorem isOnField_of_mem {c : Card} {zone : Zone} (hg : g.Distinct) (hs : g.side? p = some s)
    (hz : zone ∈ Zone.ofCards) (hfield : zone.isField) (hc : c ∈ s.cards zone) :
    g.isOnField c.id :=
  isOnField_iff.2 ⟨_, locate?_of_mem zone hg hs hz hc, hfield⟩

/-- Putting cards into a zone replaces what lies there. -/
theorem mem_placed_putCards {zone : Zone} {cards : List Card} (hn : g.seats.Nodup)
    (hs : g.side? p = some s) (hf : Side.fits zone cards.length) :
    q ∈ (g.setSide (s.putCards zone cards)).placed ↔
      if q.player = p ∧ q.zone = zone then q.card ∈ cards else q ∈ g.placed := by
  have hp : (s.putCards zone cards).player = p := Side.player_putCards.trans (player_of_side? hs)
  rw [mem_placed_iff ((seats_putCards hs).symm ▸ hn), mem_placed_iff hn]
  by_cases hq : q.player = p
  · have hside := side?_setSide_self (g := g) (s := s.putCards zone cards)
    rw [hp] at hside
    rw [hq, hside, hs]
    by_cases hz : q.zone = zone
    · simp [hz, Side.cards_putCards hf, Side.mem_ofCards_of_fits hf]
    · simp [hz, Side.cards_putCards_of_ne hz]
  · rw [if_neg fun h => hq h.1, side?_setSide_of_ne fun h => hq (h.symm.trans hp)]

theorem mem_placed_takeOut {found : Placed} {holder : Side} (hg : g.Distinct)
    (hl : g.locate? id = some found) (hs : g.side? found.player = some holder)
    (hf : Side.fits found.zone ((holder.cards found.zone).filter (·.id != id)).length) :
    q ∈ (g.takeOut holder found.zone id).placed ↔ q ∈ g.placed ∧ q.card.id ≠ id := by
  rw [takeOut, mem_placed_putCards hg.seatsOnce hs hf]
  obtain ⟨hfound, hid⟩ := (locate?_eq_some_iff hg).1 hl
  split
  · rename_i hplace
    rw [List.mem_filter, bne_iff_ne, mem_placed_iff hg.seatsOnce, hplace.1, hplace.2, hs]
    simp [Side.mem_ofCards_of_fits hf]
  · rename_i hplace
    refine ⟨fun hq => ⟨hq, fun hsame => hplace ?_⟩, fun hq => hq.1⟩
    rw [eq_of_id_eq hg hq hfound (hsame.trans hid.symm)]
    exact ⟨rfl, rfl⟩

theorem placed_returnDon {dons : List Don} (hn : g.seats.Nodup) (h : g.returnDon dons = .ok k) :
    k.placed = g.placed := by
  induction dons generalizing g with
  | nil =>
    cases h
    rfl
  | cons d rest ih =>
    obtain ⟨s, hs, h⟩ := returnDon_cases h
    have hseat : g.side? (s.regain d).player = some s := side?_player hs
    rw [ih ((seats_setSide hseat).symm ▸ hn) h]
    exact placed_setSide hn hseat fun _ => rfl

theorem placed_releaseDon {c : Card} {origin dest : Zone} (hn : g.seats.Nodup)
    (h : g.releaseDon c origin dest = .ok k) : k.placed = g.placed := by
  unfold releaseDon at h
  split at h
  · exact placed_returnDon hn h
  · cases h
    rfl

/-- A move puts the card down where it goes, and leaves the others as they lie. -/
theorem mem_placed_moveCard {dest : Zone} {toBottom : Bool} (hg : g.Distinct)
    (h : g.moveCard id dest toBottom = .ok k) : ∃ found, g.locate? id = some found ∧
      ∀ q, q ∈ k.placed ↔ q = found.landing dest ∨ (q ∈ g.placed ∧ q.card.id ≠ id) := by
  obtain ⟨found, holder, released, receiver, hl, hs, hf, hdon, hr, cards, hc, hf', rfl⟩ :=
    moveCard_cases h
  have htaken := distinct_takeOut hg hl hs hf
  have hreleased := placed_releaseDon htaken.seatsOnce hdon
  have hseats : released.seats.Nodup :=
    (sameRoster_releaseDon htaken hdon).seats.symm ▸ htaken.seatsOnce
  have hseat : released.side? (found.landing dest).player = some receiver := hr
  refine ⟨found, hl, fun q => ?_⟩
  rw [← mem_placed_takeOut hg hl hs hf, ← hreleased, mem_placed_putCards hseats hseat hf']
  have hcards : ∀ c, c ∈ cards ↔ c = arriving found.card found.zone dest ∨
      c ∈ receiver.cards dest := by
    intro c
    rcases hc with rfl | rfl <;> simp [or_comm]
  by_cases hplace : q.player = (found.landing dest).player ∧ q.zone = dest
  · rw [if_pos hplace, hcards, mem_placed_iff hseats, hplace.1, hplace.2, hseat]
    have hlanding : q = found.landing dest ↔ q.card = arriving found.card found.zone dest := by
      constructor
      · rintro rfl
        rfl
      · intro hcard
        obtain ⟨player, zone, card⟩ := q
        obtain ⟨hp, hz⟩ := hplace
        dsimp only at hp hz hcard
        rw [hp, hz, hcard]
        rfl
    simp [hlanding, Side.mem_ofCards_of_fits hf']
  · rw [if_neg hplace]
    refine ⟨.inr, fun hq => hq.resolve_left ?_⟩
    rintro rfl
    exact hplace ⟨rfl, rfl⟩

/-- A card is changed where it lies. -/
theorem mem_placed_updateCard {f : Card → Card} (hg : g.Distinct) (h : g.updateCard id f = .ok k) :
    ∃ found, g.locate? id = some found ∧ ∀ q, q ∈ k.placed ↔
      q = { found with card := f found.card } ∨ (q ∈ g.placed ∧ q.card.id ≠ id) := by
  obtain ⟨found, s, cards, hl, hs, rfl, hf, rfl⟩ := updateCard_cases h
  obtain ⟨hfound, hid⟩ := (locate?_eq_some_iff hg).1 hl
  obtain ⟨s', hs', hz, hmem⟩ := holder_of_locate? hg.seatsOnce hl
  obtain rfl : s' = s := Option.some.inj (hs'.symm.trans hs)
  refine ⟨found, hl, fun q => ?_⟩
  rw [mem_placed_putCards hg.seatsOnce hs hf]
  by_cases hplace : q.player = found.player ∧ q.zone = found.zone
  · rw [if_pos hplace, List.mem_map, mem_placed_iff hg.seatsOnce, hplace.1, hplace.2, hs]
    obtain ⟨player, zone, card⟩ := q
    obtain ⟨rfl, rfl⟩ := hplace
    constructor
    · rintro ⟨c, hc, hcard⟩
      split at hcard
      · obtain rfl : f found.card = card := hcard
        exact .inl rfl
      · rename_i hother
        obtain rfl : c = card := hcard
        exact .inr ⟨⟨s', rfl, hz, hc⟩, by simpa using hother⟩
    · rintro (hcard | ⟨⟨t, ht, -, hc⟩, hother⟩)
      · refine ⟨found.card, hmem, ?_⟩
        rw [if_pos (by simpa using hid)]
        exact (congrArg Placed.card hcard).symm
      · cases ht
        exact ⟨card, hc, if_neg (by simpa using hother)⟩
  · rw [if_neg hplace]
    constructor
    · refine fun hq => .inr ⟨hq, fun hsame => hplace ?_⟩
      rw [eq_of_id_eq hg hq hfound (hsame.trans hid.symm)]
      exact ⟨rfl, rfl⟩
    · rintro (rfl | hq)
      · exact absurd ⟨rfl, rfl⟩ hplace
      · exact hq.1

/-! ## Nothing stands in the way -/

theorem exists_side (hg : g.Sound) (p : Player) : ∃ s, g.side? p = some s :=
  Option.isSome_iff_exists.1 (isSome_side?_iff.2 (hg.present p))

theorem exists_updateCard {found : Placed} {f : Card → Card} (hg : g.Distinct)
    (hl : g.locate? id = some found) : ∃ k, g.updateCard id f = .ok k := by
  obtain ⟨s, hs, hz, -⟩ := holder_of_locate? hg.seatsOnce hl
  have hfits := Side.fits_cards (s := s) hz
  rw [← List.length_map fun c => if c.id == id then f found.card else c] at hfits
  unfold updateCard
  rw [hl]
  dsimp only
  rw [seatedSide_eq_ok_iff.2 hs, ok_bind, Side.withCards_eq_ok_iff.2 ⟨hfits, rfl⟩]
  exact ⟨_, rfl⟩

/-! ## Well-placed cards -/

/-- The rule that a card says where it lies, and has DON!! on the field only. -/
def Rule.wellPlaced : Rule :=
  ⟨fun _ zone c => c.zone = zone ∧ (¬zone.isField → c.givenDon = []), fun _ _ => True⟩

theorem Rule.kept_wellPlaced : wellPlaced.Kept where
  orient _ h := h
  modify _ h := h
  give := by
    rintro p zone c dons ⟨rfl, -⟩ ht -
    exact ⟨rfl, fun hoff => absurd (Card.isField_of_takesDon ht) hoff⟩
  arrive dest _ := ⟨zone_arriving _ _ dest, fun hoff => by simp [arriving, hoff]⟩
  rest := id
  back _ _ _ := trivial

/-- Both players are there, no two cards share an id, and every card says where it lies and has
DON!! on the field only. -/
structure WellPlaced (g : Game) : Prop extends Sound g where
  cards : ∀ s ∈ g.sides, ∀ zone ∈ Zone.ofCards, ∀ c ∈ s.cards zone,
    c.zone = zone ∧ (¬zone.isField → c.givenDon = [])

theorem WellPlaced.placed (hg : g.WellPlaced) (hq : q ∈ g.placed) :
    q.card.zone = q.zone ∧ (¬q.zone.isField → q.card.givenDon = []) := by
  obtain ⟨s, hs, -, hz, hc⟩ := Game.mem_placed.1 hq
  exact hg.cards s hs q.zone hz q.card hc

theorem Reaches.wellPlaced (h₁ : Reaches g h) (hg : g.WellPlaced) : h.WellPlaced where
  toSound := hg.toSound.of_sameRoster (Reaches.sameRoster h₁ hg.toDistinct)
  cards s hs :=
    have hobeys : g.Obeys .wellPlaced := fun s hs => ⟨hg.cards s hs, fun _ _ => trivial⟩
    (Reaches.obeys Rule.kept_wellPlaced hg.toDistinct h₁ hobeys s hs).cards

end Game

end CardRules

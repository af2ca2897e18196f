import CardRules.Proofs.Game.Placement

/-!
# Where the DON!! are

`Game.dons` are the DON!! in play: those in the cost areas and those on cards. `SameDon g h` says
that `h` has the DON!! decks of `g` and the same DON!! in play, each as often, wherever they lie
now. A game is `Entrusted` when its cards lie where they say, no two DON!! in play share an id and
a player's DON!! are the player's own. Every run keeps such a game entrusted and its DON!! the same;
since a DON!! belongs to the player who has it, each player has the same DON!! as before.
-/

namespace CardRules

/-- Leaving out the items that have the keys of some leaves the others. -/
theorem filter_not_contains_perm {α β : Type} [DecidableEq β] (key : α → β)
    {xs chosen rest : List α} (hn : (xs.map key).Nodup) (hp : xs.Perm (chosen ++ rest)) :
    (xs.filter fun x => !(chosen.map key).contains (key x)).Perm rest := by
  have hkeys := (hp.map key).nodup_iff.1 hn
  rw [List.map_append, List.nodup_append] at hkeys
  have hchosen : chosen.filter (fun x => !(chosen.map key).contains (key x)) = [] := by
    refine List.filter_eq_nil_iff.2 fun x hx => ?_
    have hmem : key x ∈ chosen.map key := List.mem_map_of_mem hx
    simpa using hmem
  have hrest : rest.filter (fun x => !(chosen.map key).contains (key x)) = rest := by
    refine List.filter_eq_self.2 fun x hx => ?_
    have hnot : key x ∉ chosen.map key := fun hmem =>
      hkeys.2.2 _ hmem _ (List.mem_map_of_mem hx) rfl
    simpa using hnot
  have hfiltered := hp.filter fun x => !(chosen.map key).contains (key x)
  rwa [List.filter_append, hchosen, hrest, List.nil_append] at hfiltered

/-- The DON!! itself, apart from where and how it lies. -/
def Don.identity (d : Don) : String × Player := (d.id, d.owner)

/-- The DON!! that a card loses when it goes to a zone: those it bears off the field, unless it
comes to the field. -/
def Placed.lostDon (q : Placed) (dest : Zone) : List Don :=
  if q.zone.isField || dest.isField then [] else q.card.givenDon

namespace Side

/-- All DON!! of a player in play: in the cost area and on field cards. -/
def donPool (s : Side) : List Don := s.costArea ++ s.fieldCards.flatMap (·.givenDon)

theorem mem_fieldCards {s : Side} {c : Card} :
    c ∈ s.fieldCards ↔ ∃ zone : Zone, zone.isField ∧ c ∈ s.cards zone := by
  constructor
  · intro hc
    simp only [fieldCards, List.mem_append] at hc
    rcases hc with (hc | hc) | hc
    · exact ⟨.leaderArea, rfl, hc⟩
    · exact ⟨.characterArea, rfl, hc⟩
    · exact ⟨.stageArea, rfl, hc⟩
  · rintro ⟨zone, hz, hc⟩
    cases zone <;> simp_all [Zone.isField, cards, fieldCards]

/-- Where cards off the field have no DON!!, a player's DON!! in play are all there are on the
player's side. -/
theorem donPool_perm_of_bare {s : Side}
    (hb : ∀ zone ∈ Zone.ofCards, ¬zone.isField → ∀ c ∈ s.cards zone, c.givenDon = []) :
    (s.costArea ++ s.allCards.flatMap (·.givenDon)).Perm s.donPool := by
  have hoff : ∀ zone ∈ Zone.ofCards, ¬zone.isField →
      (s.cards zone).flatMap (·.givenDon) = [] := fun zone hz hfield =>
    List.flatMap_eq_nil_iff.2 (hb zone hz hfield)
  have hdeck := hoff .deck (by decide) (by decide)
  have hhand := hoff .hand (by decide) (by decide)
  have htrash := hoff .trash (by decide) (by decide)
  have hlife := hoff .life (by decide) (by decide)
  have hbanished := hoff .banished (by decide) (by decide)
  refine List.Perm.append_left _ ?_
  simp only [allCards, Zone.ofCards, List.flatMap_cons, List.flatMap_append, hdeck, hhand, htrash,
    hlife, hbanished, List.flatMap_nil, List.nil_append, List.append_nil, fieldCards,
    List.append_assoc]
  exact List.perm_append_comm_assoc _ _ _

theorem donInPlay_eq (s : Side) : s.donInPlay = s.donPool.length := by
  simp [donInPlay, donPool]

@[simp] theorem donDeck_putCards {s : Side} {zone : Zone} {cards : List Card} :
    (s.putCards zone cards).donDeck = s.donDeck := by
  cases zone <;> rfl

end Side

namespace Game

variable {g h k : Game} {s t : Side} {p : Player} {id : String}

/-- The DON!! in the cost areas of all sides. -/
def costDons (g : Game) : List Don := g.sides.flatMap (·.costArea)

/-- The DON!! in play, in cost areas and on cards. -/
def dons (g : Game) : List Don := g.costDons ++ g.cards.flatMap (·.givenDon)

/-- The DON!! deck of each player. -/
def donDecks (g : Game) : List (Player × List Don) := g.sides.map fun s => (s.player, s.donDeck)

/-- The same DON!! decks and the same DON!! in play, wherever these lie now. -/
structure SameDon (g h : Game) : Prop where
  decks : h.donDecks = g.donDecks
  inPlay : (h.dons.map Don.identity).Perm (g.dons.map Don.identity)

theorem SameDon.refl (g : Game) : SameDon g g := ⟨rfl, .refl _⟩

theorem SameDon.trans (h₁ : SameDon g h) (h₂ : SameDon h k) : SameDon g k :=
  ⟨h₂.decks.trans h₁.decks, h₂.inPlay.trans h₁.inPlay⟩

/-! ## Sides -/

theorem donDecks_setSide (hn : g.seats.Nodup) (hs : g.side? t.player = some s)
    (hd : t.donDeck = s.donDeck) : (g.setSide t).donDecks = g.donDecks :=
  map_setSide hn hs (by simp only [hd, player_of_side? hs])

theorem costDons_putCards {zone : Zone} {cards : List Card} (hn : g.seats.Nodup)
    (hs : g.side? p = some s) : (g.setSide (s.putCards zone cards)).costDons = g.costDons := by
  simp only [costDons, List.flatMap_def]
  congr 1
  exact map_setSide hn (by simpa using side?_player hs) Side.costArea_putCards

/-- A new side with the same cards has its own DON!! beside those of the rest of the game. -/
theorem exists_rest_of_costArea (hn : g.seats.Nodup) (hs : g.side? t.player = some s)
    (hc : t.allCards = s.allCards) :
    ∃ rest, g.dons.Perm (s.costArea ++ rest) ∧ (g.setSide t).dons.Perm (t.costArea ++ rest) := by
  have hcards : (g.setSide t).cards = g.cards := by
    simp only [cards, List.flatMap_def]
    congr 1
    exact map_setSide hn hs hc
  refine ⟨(g.others t.player).flatMap (·.costArea) ++ g.cards.flatMap (·.givenDon), ?_, ?_⟩
  · have hp := (sides_perm hn hs).flatMap_right (·.costArea)
    simpa [dons, costDons, List.append_assoc] using hp.append_right (g.cards.flatMap (·.givenDon))
  · have hp := (sides_setSide_perm hn hs).flatMap_right (·.costArea)
    simpa [dons, costDons, hcards, List.append_assoc] using
      hp.append_right (g.cards.flatMap (·.givenDon))

/-- With the same cost areas, games differ in DON!! as they differ in cards. -/
theorem dons_perm_of_cards {c : Card} (hd : h.costDons = g.costDons)
    (hc : g.cards.Perm (c :: h.cards)) : g.dons.Perm (c.givenDon ++ h.dons) := by
  have hp := (hc.flatMap_right (·.givenDon)).append_left g.costDons
  rw [List.flatMap_cons] at hp
  refine hp.trans ?_
  rw [dons, hd, ← List.append_assoc, ← List.append_assoc]
  exact List.perm_append_comm.append_right _

/-! ## Steps -/

theorem donDecks_updateCard {f : Card → Card} (hn : g.seats.Nodup)
    (h : g.updateCard id f = .ok k) : k.donDecks = g.donDecks :=
  map_updateCard hn (fun _ _ _ => by simp) h

theorem costDons_updateCard {f : Card → Card} (hn : g.seats.Nodup)
    (h : g.updateCard id f = .ok k) : k.costDons = g.costDons := by
  simp only [costDons, List.flatMap_def]
  congr 1
  exact map_updateCard hn (fun _ _ _ => Side.costArea_putCards) h

/-- A change of one card changes the DON!! in play by those of the card. -/
theorem dons_updateCard {f : Card → Card} (hg : g.Distinct) (h : g.updateCard id f = .ok k) :
    ∃ found rest, g.locate? id = some found ∧ g.dons.Perm (found.card.givenDon ++ rest) ∧
      k.dons.Perm ((f found.card).givenDon ++ rest) := by
  obtain ⟨found, others, hl, hbefore, hafter⟩ := cards_updateCard hg h
  have hcost := costDons_updateCard hg.seatsOnce h
  refine ⟨found, g.costDons ++ others.flatMap (·.givenDon), hl, ?_, ?_⟩
  · have hp := (hbefore.flatMap_right (·.givenDon)).append_left g.costDons
    exact hp.trans (List.perm_append_comm_assoc _ _ _)
  · have hp := (hafter.flatMap_right (·.givenDon)).append_left k.costDons
    rw [hcost] at hp
    rw [dons, hcost]
    exact hp.trans (List.perm_append_comm_assoc _ _ _)

theorem sameDon_updateCard {f : Card → Card} (hg : g.Distinct)
    (hf : ∀ c, (f c).givenDon = c.givenDon) (h : g.updateCard id f = .ok k) : SameDon g k := by
  obtain ⟨found, rest, -, hbefore, hafter⟩ := dons_updateCard hg h
  rw [hf] at hafter
  exact ⟨donDecks_updateCard hg.seatsOnce h, (hafter.trans hbefore.symm).map _⟩

/-- A new cost area with the same DON!!, in whatever order and orientation. -/
theorem sameDon_setSide (hn : g.seats.Nodup) (hs : g.side? t.player = some s)
    (hd : t.donDeck = s.donDeck) (hc : t.allCards = s.allCards)
    (ha : t.costArea.map Don.identity = s.costArea.map Don.identity) :
    SameDon g (g.setSide t) := by
  obtain ⟨rest, hbefore, hafter⟩ := exists_rest_of_costArea hn hs hc
  refine ⟨donDecks_setSide hn hs hd, ?_⟩
  have h₁ := hbefore.map Don.identity
  have h₂ := hafter.map Don.identity
  rw [List.map_append] at h₁ h₂
  rw [ha] at h₂
  exact h₂.trans h₁.symm

theorem sameDon_restDon {amount : Int} (hn : g.seats.Nodup) (h : g.restDon p amount = .ok k) :
    SameDon g k := by
  obtain ⟨s, ids, hs, rfl⟩ := restDon_cases h
  refine sameDon_setSide hn (s := s) (side?_player hs) rfl rfl ?_
  rw [Side.rest, List.map_map]
  refine List.map_congr_left fun d _ => ?_
  by_cases hd : d.id ∈ ids <;> simp [hd, Don.identity]

/-- What comes back is in play besides what was. -/
theorem dons_returnDon {ds : List Don} (hg : g.Distinct) (h : g.returnDon ds = .ok k) :
    k.donDecks = g.donDecks ∧
      (k.dons.map Don.identity).Perm (ds.map Don.identity ++ g.dons.map Don.identity) := by
  induction ds generalizing g with
  | nil => cases h; exact ⟨rfl, .refl _⟩
  | cons d ds ih =>
    obtain ⟨s, hs, h⟩ := returnDon_cases h
    have ht : g.side? (s.regain d).player = some s := side?_player hs
    have hroster : SameRoster g (g.setSide (s.regain d)) := sameRoster_setSide hg hs rfl rfl
    obtain ⟨hdecks, hdons⟩ := ih (hg.of_sameRoster hroster) h
    obtain ⟨rest, hbefore, hafter⟩ := exists_rest_of_costArea hg.seatsOnce ht rfl
    refine ⟨hdecks.trans (donDecks_setSide hg.seatsOnce ht rfl), ?_⟩
    have hback : ((g.setSide (s.regain d)).dons.map Don.identity).Perm
        (d.identity :: g.dons.map Don.identity) := by
      have hmiddle := hafter
      rw [Side.regain, List.append_assoc] at hmiddle
      have hmap := (hmiddle.trans List.perm_middle).map Don.identity
      exact hmap.trans ((hbefore.symm.map Don.identity).cons _)
    exact hdons.trans ((hback.append_left _).trans List.perm_middle)

theorem dons_releaseDon {c : Card} {origin dest : Zone} (hg : g.Distinct)
    (h : g.releaseDon c origin dest = .ok k) :
    k.donDecks = g.donDecks ∧ (k.dons.map Don.identity).Perm
      ((if origin.isField && !dest.isField then c.givenDon else []).map Don.identity ++
        g.dons.map Don.identity) := by
  unfold releaseDon at h
  split at h
  · rename_i hleaves
    simpa [hleaves] using dons_returnDon hg h
  · rename_i hstays
    cases h
    simp [hstays]

/-- The DON!! of a card that moves are released, arrive with it or are lost. -/
theorem arriving_append_released (q : Placed) (dest : Zone) :
    (arriving q.card q.zone dest).givenDon ++
      (if q.zone.isField && !dest.isField then q.card.givenDon else []) ++ q.lostDon dest =
        q.card.givenDon := by
  unfold arriving Placed.lostDon
  by_cases hd : dest.isField
  · simp [hd]
  · by_cases ho : q.zone.isField
    · simp [hd, ho]
    · simp [hd, ho]

open scoped List in
/-- A move keeps all DON!! but those that the card loses. -/
theorem dons_moveCard {dest : Zone} {toBottom : Bool} (hg : g.Distinct)
    (h : g.moveCard id dest toBottom = .ok k) : ∃ found, g.locate? id = some found ∧
      k.donDecks = g.donDecks ∧
      ((k.dons ++ found.lostDon dest).map Don.identity).Perm (g.dons.map Don.identity) := by
  obtain ⟨found, holder, released, receiver, hl, hs, hf, hdon, hr, cards, hc, hf', rfl⟩ :=
    moveCard_cases h
  have htaken := distinct_takeOut hg hl hs hf
  have hroster := sameRoster_releaseDon htaken hdon
  have hn : released.seats.Nodup := hroster.seats ▸ htaken.seatsOnce
  obtain ⟨hdecks, hreleased⟩ := dons_releaseDon htaken hdon
  have hout := dons_perm_of_cards (costDons_putCards hg.seatsOnce hs) (cards_takeOut hg hl hs hf)
  have hin := dons_perm_of_cards (costDons_putCards hn hr).symm (cards_added hn hr hf' hc)
  refine ⟨found, hl, ?_, ?_⟩
  · have hlaid := donDecks_setSide (t := receiver.putCards dest cards) hn
      (by simpa using side?_player hr) Side.donDeck_putCards
    have hgone := donDecks_setSide (t := holder.putCards found.zone
      ((holder.cards found.zone).filter (·.id != id))) hg.seatsOnce
      (by simpa using side?_player hs) Side.donDeck_putCards
    exact hlaid.trans (hdecks.trans hgone)
  · set arrived := (arriving found.card found.zone dest).givenDon
    set sent := if found.zone.isField && !dest.isField then found.card.givenDon else []
    set taken := g.takeOut holder found.zone id
    calc (Game.dons _ ++ found.lostDon dest).map Don.identity
      _ ~ ((arrived ++ released.dons) ++ found.lostDon dest).map Don.identity :=
          (hin.append_right _).map _
      _ = arrived.map Don.identity ++
            (released.dons.map Don.identity ++ (found.lostDon dest).map Don.identity) := by simp
      _ ~ arrived.map Don.identity ++ (sent.map Don.identity ++ taken.dons.map Don.identity ++
            (found.lostDon dest).map Don.identity) :=
          (hreleased.append_right _).append_left _
      _ ~ (arrived ++ sent ++ found.lostDon dest ++ taken.dons).map Don.identity := by
          simp only [List.map_append, List.append_assoc]
          exact (List.perm_append_comm.append_left _).append_left _
      _ = (found.card.givenDon ++ taken.dons).map Don.identity := by
          rw [arriving_append_released]
      _ ~ g.dons.map Don.identity := (hout.map _).symm

theorem sameDon_moveCard {dest : Zone} {toBottom : Bool} (hg : g.Distinct)
    (hoff : ∀ found, g.locate? id = some found → ¬found.zone.isField → found.card.givenDon = [])
    (h : g.moveCard id dest toBottom = .ok k) : SameDon g k := by
  obtain ⟨found, hl, hdecks, hdons⟩ := dons_moveCard hg h
  have hnone : found.lostDon dest = [] := by
    unfold Placed.lostDon
    by_cases ho : found.zone.isField
    · simp [ho]
    · simp [hoff found hl ho]
  rw [hnone, List.append_nil] at hdons
  exact ⟨hdecks, hdons⟩

open scoped List in
/-- Giving DON!! takes them from the cost area and puts them on the card. -/
theorem sameDon_attachDon {amount : Int} {n : Nat} (hg : g.Distinct)
    (hn : (g.dons.map (·.id)).Nodup) (h : g.attachDon p id amount = .ok (k, n)) : SameDon g k := by
  obtain rfl | ⟨s, chosen, hs, hfirst, hk⟩ := attachDon_cases h
  · exact .refl k
  have hseat : g.side? (s.spend chosen).player = some s := side?_player hs
  have hspent := sameRoster_setSide (t := s.spend chosen) hg hs rfl rfl
  obtain ⟨rest, hbefore, hafter⟩ := exists_rest_of_costArea hg.seatsOnce hseat rfl
  obtain ⟨found, others, -, hfound, hgiven⟩ := dons_updateCard (hg.of_sameRoster hspent) hk
  obtain ⟨kept, hkept⟩ := hfirst
  have hcost : s.costArea.Perm (chosen ++ kept) := hkept ▸ (donOrder_perm s.costArea).symm
  have hleft : (s.spend chosen).costArea.Perm kept := by
    have hids := (hbefore.map (·.id)).nodup_iff.1 hn
    rw [List.map_append] at hids
    exact filter_not_contains_perm (·.id) hids.of_append_left hcost
  refine ⟨?_, ?_⟩
  · have hdecks := donDecks_updateCard (hg.of_sameRoster hspent).seatsOnce hk
    exact hdecks.trans (donDecks_setSide hg.seatsOnce hseat rfl)
  · have hsame : (chosen.map fun d => { d with zone := .characterArea }).map Don.identity =
        chosen.map Don.identity := by
      rw [List.map_map]
      exact List.map_congr_left fun _ _ => rfl
    have hmoved : (g.setSide (s.spend chosen)).dons.Perm (kept ++ rest) :=
      hafter.trans (hleft.append_right rest)
    calc k.dons.map Don.identity
      _ ~ ((found.card.take chosen).givenDon ++ others).map Don.identity := hgiven.map _
      _ = found.card.givenDon.map Don.identity ++
            (chosen.map Don.identity ++ others.map Don.identity) := by
          simp only [Card.take, List.map_append, hsame, List.append_assoc]
      _ ~ chosen.map Don.identity ++ (found.card.givenDon ++ others).map Don.identity := by
          rw [List.map_append]
          exact List.perm_append_comm_assoc _ _ _
      _ ~ chosen.map Don.identity ++ (kept ++ rest).map Don.identity :=
          ((hfound.symm.trans hmoved).map _).append_left _
      _ = ((chosen ++ kept) ++ rest).map Don.identity := by simp
      _ ~ g.dons.map Don.identity := ((hcost.symm.append_right rest).trans hbefore.symm).map _

/-! ## Entrusted games -/

end Game

/-- The card lies where it says, and its DON!! belong to the player on whose side it lies. -/
structure Card.Keeps (p : Player) (place : Zone) (c : Card) : Prop extends
    Card.LiesAt p place c where
  own : ∀ d ∈ c.givenDon, d.owner = p

namespace Game

variable {g h : Game} {s : Side} {p : Player}

/-- The rule of an entrusted game: cards lie where they say, and the DON!! in a player's cost area
and on cards of a player's side are the player's. -/
def Rule.entrusted : Rule := ⟨fun p zone c => c.Keeps p zone, fun p d => d.owner = p⟩

theorem Rule.kept_entrusted : entrusted.Kept where
  orient _ h := ⟨⟨h.zone, h.onField, h.offField⟩, h.own⟩
  modify _ h := ⟨⟨h.zone, h.onField, h.offField⟩, h.own⟩
  give h ht hd := by
    have hz := h.isField ht
    refine ⟨⟨h.zone, h.onField, fun hoff => absurd hz hoff⟩, fun d hmem => ?_⟩
    rcases List.mem_append.1 hmem with hmem | hmem
    · exact h.own d hmem
    · obtain ⟨d', hd', rfl⟩ := List.mem_map.1 hmem
      exact (hd d' hd').trans (h.onField hz)
  arrive := by
    intro p origin c dest h
    refine ⟨Card.liesAt_arriving _ _ dest, fun d hmem => ?_⟩
    by_cases hd : dest.isField
    · have hmem' : d ∈ c.givenDon := by simpa [arriving, hd] using hmem
      by_cases ho : origin.isField
      · simpa [hd, h.onField ho] using h.own d hmem'
      · simp [h.offField ho] at hmem'
    · simp [arriving, hd] at hmem
  rest h := h
  back _ _ _ := rfl

/-- Both players are there, no two cards share an id and no two DON!! in play do, every card lies
where it says, and each player has DON!! of the player's own. -/
structure Entrusted (g : Game) : Prop extends Sound g where
  donsOnce : (g.dons.map (·.id)).Nodup
  cards : ∀ s ∈ g.sides, ∀ zone ∈ Zone.ofCards, ∀ c ∈ s.cards zone, c.LiesAt s.player zone
  own : ∀ s ∈ g.sides, ∀ d ∈ s.donPool, d.owner = s.player

theorem Step.sameDon (h₁ : Step g h) (hg : g.Distinct) (hd : (g.dons.map (·.id)).Nodup)
    (ho : g.Obeys .entrusted) : SameDon g h := by
  cases h₁ with
  | move h₁ => exact sameDon_moveCard hg (fun _ hl hoff => (ho.located hl).offField hoff) h₁
  | orient h₁ => exact sameDon_updateCard hg (by exact fun _ => rfl) h₁
  | modify h₁ =>
    unfold addModifier at h₁
    exact sameDon_updateCard hg (by exact fun _ => rfl) h₁
  | restDon h₁ => exact sameDon_restDon hg.seatsOnce h₁
  | giveDon _ _ h₁ => exact sameDon_attachDon hg hd h₁
  | flag h₁ =>
    obtain ⟨s, hs, rfl⟩ := setFlag_cases h₁
    exact sameDon_setSide hg.seatsOnce (s := s) (side?_player hs) rfl rfl rfl

theorem SameDon.nodup (h₁ : SameDon g h) (hd : (g.dons.map (·.id)).Nodup) :
    (h.dons.map (·.id)).Nodup := by
  have hp := h₁.inPlay.map (·.1)
  simp only [List.map_map] at hp
  exact hp.nodup_iff.2 hd

theorem Entrusted.obeys (hg : g.Entrusted) : g.Obeys .entrusted := by
  refine fun s hs => ⟨fun zone hz c hc => ?_, fun d hd => ?_⟩
  · have hlies := hg.cards s hs zone hz c hc
    refine ⟨hlies, fun d hd => ?_⟩
    by_cases hfield : zone.isField
    · have hmem : c ∈ s.fieldCards := Side.mem_fieldCards.2 ⟨zone, hfield, hc⟩
      exact hg.own s hs d (List.mem_append_right _ (List.mem_flatMap.2 ⟨c, hmem, hd⟩))
    · simp [hlies.offField hfield] at hd
  · exact hg.own s hs d (List.mem_append_left _ hd)

theorem Rule.OnSide.own (hs : entrusted.OnSide s) : ∀ d ∈ s.donPool, d.owner = s.player := by
  intro d hd
  rcases List.mem_append.1 hd with hd | hd
  · exact hs.dons d hd
  · obtain ⟨c, hc, hd⟩ := List.mem_flatMap.1 hd
    obtain ⟨zone, -, hc⟩ := Side.mem_fieldCards.1 hc
    exact (hs.cards zone (Side.mem_ofCards_of_mem hc) c hc).own d hd

/-- A run moves DON!! between cost areas and cards, and nothing else. -/
theorem Reaches.sameDon (h₁ : Reaches g h) (hg : g.Entrusted) : SameDon g h := by
  induction h₁ with
  | refl => exact .refl g
  | tail h₁ h₂ ih =>
    have hroster : SameRoster g _ := Reaches.sameRoster h₁ hg.toDistinct
    have hobeys := Reaches.obeys Rule.kept_entrusted hg.toDistinct h₁ hg.obeys
    exact ih.trans (h₂.sameDon (hg.toDistinct.of_sameRoster hroster) (ih.nodup hg.donsOnce) hobeys)

theorem Reaches.entrusted (h₁ : Reaches g h) (hg : g.Entrusted) : h.Entrusted := by
  have hobeys := Reaches.obeys Rule.kept_entrusted hg.toDistinct h₁ hg.obeys
  exact {
    toSound := hg.toSound.of_sameRoster (Reaches.sameRoster h₁ hg.toDistinct)
    donsOnce := (Reaches.sameDon h₁ hg).nodup hg.donsOnce
    cards := fun s hs zone hz c hc => ((hobeys s hs).cards zone hz c hc).toLiesAt
    own := fun s hs d hd => (hobeys s hs).own d hd }

/-! ## The DON!! of one player -/

theorem dons_perm (g : Game) :
    g.dons.Perm (g.sides.flatMap fun s => s.costArea ++ s.allCards.flatMap (·.givenDon)) := by
  simp only [dons, costDons, cards, List.flatMap_assoc]
  exact List.flatMap_append_perm _ _ _

/-- A player's DON!! in play are those that belong to the player. -/
theorem donPool_perm (hg : g.Entrusted) (hs : g.side? p = some s) :
    s.donPool.Perm (g.dons.filter (·.owner == p)) := by
  have hpools : g.dons.Perm (g.sides.flatMap Side.donPool) := by
    refine (dons_perm g).trans (List.Perm.flatMap_left _ fun t ht => ?_)
    refine Side.donPool_perm_of_bare fun zone hz hoff c hc => ?_
    exact (hg.cards t ht zone hz c hc).offField hoff
  have hown : s.donPool.filter (·.owner == p) = s.donPool := by
    refine List.filter_eq_self.2 fun d hd => ?_
    simp [hg.own s (mem_of_side? hs) d hd, player_of_side? hs]
  have hother : ((g.others p).flatMap Side.donPool).filter (·.owner == p) = [] := by
    refine List.filter_eq_nil_iff.2 fun d hd => ?_
    obtain ⟨t, ht, hd⟩ := List.mem_flatMap.1 hd
    obtain ⟨ht, hne⟩ := List.mem_filter.1 ht
    simpa [hg.own t ht d hd] using hne
  have hp := (hpools.trans ((sides_perm hg.seatsOnce hs).flatMap_right Side.donPool)).filter
    (·.owner == p)
  rw [List.flatMap_cons, List.filter_append, hown, hother, List.append_nil] at hp
  exact hp.symm

end Game

/-- The side of a player later in the game: with the same DON!! deck, and with the same DON!! in
play, each of them once. -/
structure Side.KeepsDon (s t : Side) : Prop where
  deck : t.donDeck = s.donDeck
  pool : (t.donPool.map (·.id)).Perm (s.donPool.map (·.id))
  once : (t.donPool.map (·.id)).Nodup

theorem Side.KeepsDon.donInPlay_eq {s t : Side} (h : s.KeepsDon t) : t.donInPlay = s.donInPlay := by
  have hlength := h.pool.length_eq
  rwa [List.length_map, List.length_map, ← Side.donInPlay_eq, ← Side.donInPlay_eq] at hlength

namespace Game

variable {g h : Game} {s t : Side} {p : Player}

theorem SameDon.donDeck_eq (h₁ : SameDon g h) (hn : g.seats.Nodup) (hs : g.side? p = some s)
    (ht : h.side? p = some t) : t.donDeck = s.donDeck := by
  have hmem : (p, t.donDeck) ∈ g.donDecks := by
    rw [← h₁.decks, ← player_of_side? ht]
    exact List.mem_map_of_mem (mem_of_side? ht)
  obtain ⟨u, hu, heq⟩ := List.mem_map.1 hmem
  obtain ⟨rfl, hdeck⟩ := Prod.mk.inj heq
  rw [side?_of_mem hn hu] at hs
  obtain rfl := Option.some.inj hs
  exact hdeck.symm

theorem Reaches.keepsDon (h₁ : Reaches g h) (hg : g.Entrusted) (hs : g.side? p = some s)
    (ht : h.side? p = some t) : s.KeepsDon t := by
  have hsame := Reaches.sameDon h₁ hg
  have hh := Reaches.entrusted h₁ hg
  have hbefore := donPool_perm hg hs
  have hafter := donPool_perm hh ht
  have hpool : (t.donPool.map (·.id)).Perm (s.donPool.map (·.id)) := by
    have hp := (hsame.inPlay.filter fun d => d.2 == p).map (·.1)
    simp only [List.filter_map, List.map_map] at hp
    exact (hafter.map _).trans (hp.trans (hbefore.map _).symm)
  refine ⟨hsame.donDeck_eq hg.seatsOnce hs ht, hpool, ?_⟩
  have honce := (hafter.map (·.id)).nodup_iff.2
  exact honce (hh.donsOnce.sublist (List.filter_sublist.map _))

theorem entrusted_contested : contested.Entrusted where
  toSound := tidy_contested.toSound
  donsOnce := by decide
  cards := by decide
  own := by decide

end Game

namespace Engine

variable {σ : Type} {host : Host σ} {e : Engine σ}

/-- DON!! change no hands, and none appears or is lost: whatever is called, each player keeps the
DON!! deck and has the same DON!! in play, so comparisons with `controller.don` see no change. -/
theorem run_keepsDon (bonus : DonBonus) (calls : List Call) (hh : host.Only Reaction.Lawful)
    (hr : e.resolvers = .standard bonus) (hs : e.scripts.OfHelpers) (hg : e.game.Entrusted) :
    (run host calls e).game.Entrusted ∧
    (∀ p, ∃ s t, e.game.side? p = some s ∧ (run host calls e).game.side? p = some t ∧
      s.KeepsDon t) ∧
    ∀ ctx : Context, (Operand.text "controller.don").value
        { ctx with game := (run host calls e).game } =
      (Operand.text "controller.don").value { ctx with game := e.game } := by
  have he : e.Lawful := ⟨hr ▸ ResolverTable.standard_lawful bonus, hs⟩
  have hreach := (moves_run hh he calls).game
  have hafter := Game.Reaches.entrusted hreach hg
  have hsides : ∀ p, ∃ s t, e.game.side? p = some s ∧ (run host calls e).game.side? p = some t ∧
      s.KeepsDon t := by
    intro p
    obtain ⟨s, hs⟩ := Option.isSome_iff_exists.1 (Game.isSome_side?_iff.2 (hg.present p))
    obtain ⟨t, ht⟩ := Option.isSome_iff_exists.1 (Game.isSome_side?_iff.2 (hafter.present p))
    exact ⟨s, t, hs, ht, Game.Reaches.keepsDon hreach hg hs ht⟩
  refine ⟨hafter, hsides, fun ctx => ?_⟩
  obtain ⟨s, t, hs, ht, hkeeps⟩ := hsides ctx.controller
  have hword : Quantity.ofWord? "controller.don" = some .controllerDon :=
    Quantity.ofWord?_word .controllerDon
  simp only [Operand.value, hword, Quantity.value, Quantity.count, Game.side_eq_ok_iff.2 hs,
    Game.side_eq_ok_iff.2 ht]
  exact congrArg (fun n : Nat => Except.ok (Operand.int n)) hkeeps.donInPlay_eq

/-- The DON!! of the character that is sent home stays with the player who gave it. -/
theorem run_keepsDon_contested :
    (∀ p, ∃ s t, Game.contested.side? p = some s ∧
      (run .silent [.push sendingHome none, .resolve] (standard Game.contested)).game.side? p =
        some t ∧ s.KeepsDon t) ∧
    (run .silent [.push sendingHome none, .resolve] (standard Game.contested)).game.sides.map
      (·.costArea.map (·.id)) = [["don1", "don2", "don3"], ["don4"]] :=
  have hkept := run_keepsDon (e := standard Game.contested) ⟨none, 1000⟩
    [.push sendingHome none, .resolve] (Host.only_silent _) rfl ScriptBook.stock_ofHelpers
    Game.entrusted_contested
  ⟨hkept.2.1, by cbv⟩

end Engine

end CardRules

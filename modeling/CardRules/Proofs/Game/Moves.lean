import CardRules.Proofs.Game.Edits

/-!
# Moves

A move takes a card out of its zone, sends its DON!! back if it leaves the field, and lays it down
at one end of another zone. `moveCard_exact` says when it fails (`Obstructs`), and otherwise what
each zone of each player holds afterwards (`Placed.moving`) and how the card itself has changed
(`Card.Arrives`).
-/

namespace CardRules

theorem Placed.id_landing {q : Placed} {dest : Zone} : (q.landing dest).card.id = q.card.id :=
  Game.id_arriving q.card q.zone dest

/-- The DON!! that a card sends back when it goes to a zone: all it has, if it leaves the field. -/
def Placed.released (q : Placed) (dest : Zone) : List Don :=
  if q.zone.isField && !dest.isField then q.card.givenDon else []

/-- The cards of a zone once a card has been laid at its end (`toBottom`) or at its front. -/
def Card.laidWith (c : Card) (toBottom : Bool) (cards : List Card) : List Card :=
  if toBottom then cards ++ [c] else c :: cards

@[simp] theorem Card.length_laidWith (c : Card) (toBottom : Bool) (cards : List Card) :
    (c.laidWith toBottom cards).length = cards.length + 1 := by
  cases toBottom <;> simp [laidWith]

/-- A card is taken out, and laid down at one end of the zone where it goes. -/
def Placed.moving (q : Placed) (dest : Zone) (toBottom : Bool) : Edit := fun p zone cards =>
  let others := cards.filter (·.id != q.card.id)
  if p = (q.landing dest).player ∧ zone = dest then
    (q.landing dest).card.laidWith toBottom others
  else others

/-- How a card has changed that came to a zone from another. -/
structure Card.Arrives (c : Card) (origin dest : Zone) (arrived : Card) : Prop where
  identity : arrived.identity = c.identity
  zone : arrived.zone = dest
  /-- On the field a card keeps its controller, its modifiers and its DON!!. -/
  onField : dest.isField → arrived.controller = c.controller ∧ arrived.modifiers = c.modifiers ∧
    arrived.givenDon = c.givenDon
  within : origin.isField → dest.isField → arrived.orientation = c.orientation
  entering : ¬origin.isField → dest.isField → arrived.orientation = .active
  offField : ¬dest.isField → arrived.controller = c.owner ∧ arrived.modifiers = [] ∧
    arrived.givenDon = [] ∧ arrived.orientation = .none

theorem Card.arrives_arriving (c : Card) (origin dest : Zone) :
    c.Arrives origin dest (Game.arriving c origin dest) := by
  refine ⟨Card.identity_arriving c origin dest, Game.zone_arriving c origin dest, ?_, ?_, ?_, ?_⟩
  · intro hd
    simp [Game.arriving, hd]
  · intro ho hd
    simp [Game.arriving, ho, hd]
  · intro ho hd
    simp [Game.arriving, ho, hd]
  · intro hd
    simp [Game.arriving, hd]

namespace Side

variable {s : Side} {zone : Zone} {n : Nat}

theorem fits_succ_iff :
    fits zone (n + 1) ↔ zone ∈ Zone.ofCards ∧ (zone.isSlot → n = 0) := by
  cases zone <;> simp [fits, Zone.holdsCards, Zone.ofCards, Zone.isSlot]

end Side

namespace Game

variable {g h k : Game} {s : Side} {p : Player} {id : String} {q : Placed} {dest : Zone}
  {toBottom : Bool} {dons : List Don}

/-- What stands in the way when a card is to go to a zone. -/
inductive Obstructs (g : Game) (id : String) (dest : Zone) : Prop where
  | missing : (∀ q ∈ g.placed, q.card.id ≠ id) → Obstructs g id dest
  /-- The zone holds no cards. -/
  | cardless : dest = .donDeck ∨ dest = .costArea → Obstructs g id dest
  /-- The zone has room for one card only, and another lies there. -/
  | taken {q r : Placed} : q ∈ g.placed → q.card.id = id → dest.isSlot → r ∈ g.placed →
      r.player = (q.landing dest).player → r.zone = dest → r.card.id ≠ id → Obstructs g id dest
  /-- Nobody sits where the card goes. -/
  | noReceiver {q : Placed} : q ∈ g.placed → q.card.id = id →
      (q.landing dest).player ∉ g.seats → Obstructs g id dest
  /-- Nobody sits where one of its DON!! goes. -/
  | noDonOwner {q : Placed} {d : Don} : q ∈ g.placed → q.card.id = id → d ∈ q.released dest →
      d.owner ∉ g.seats → Obstructs g id dest

/-! ## The stages of a move -/

/-- Taking a card out of its zone leaves the other cards in their order. -/
theorem edited_takeOut (hg : g.Distinct) (hl : g.locate? id = some q)
    (hs : g.side? q.player = some s)
    (hf : Side.fits q.zone ((s.cards q.zone).filter (·.id != id)).length) :
    Edited g (g.takeOut s q.zone id) [] (fun _ _ cards => cards.filter (·.id != id)) := by
  refine (edited_putCards hs hf).congr fun p u hu zone => ?_
  by_cases hplace : p = q.player ∧ zone = q.zone
  · obtain ⟨rfl, rfl⟩ := hplace
    obtain rfl : s = u := Option.some.inj (hs.symm.trans hu)
    rw [if_pos ⟨rfl, rfl⟩]
  · rw [if_neg hplace]
    refine (List.filter_eq_self.2 fun c hc => ?_).symm
    have hlc := locate?_of_mem zone hg hu (Side.mem_ofCards_of_mem hc) hc
    have hother : c.id ≠ id := fun hid => by
      rw [hid, hl] at hlc
      obtain rfl := Option.some.inj hlc
      exact hplace ⟨rfl, rfl⟩
    simpa using hother

theorem edited_releaseDon {k : Game}
    (hr : g.releaseDon q.card q.zone dest = .ok k) : Edited g k (q.released dest) .keep := by
  unfold releaseDon at hr
  unfold Placed.released
  split at hr
  · rename_i hleaves
    rw [if_pos hleaves]
    exact edited_returnDon hr
  · rename_i hstays
    cases hr
    rw [if_neg hstays]
    exact .refl _

/-- A card can always be taken out. A move goes on to send its DON!! back and to lay it down. -/
theorem moveCard_eq (hl : g.locate? id = some q) (hs : g.side? q.player = some s)
    (hz : q.zone ∈ Zone.ofCards) : g.moveCard id dest toBottom =
      (do
        let released ← (g.takeOut s q.zone id).releaseDon q.card q.zone dest
        let receiver ← released.seatedSide (q.landing dest).player
        let receiver ← receiver.withCards dest
          ((q.landing dest).card.laidWith toBottom (receiver.cards dest))
        pure (released.setSide receiver)) := by
  have hfits : Side.fits q.zone ((s.cards q.zone).filter (·.id != id)).length :=
    Side.fits_of_le (List.length_filter_le _ _) (Side.fits_cards hz)
  unfold moveCard
  rw [hl]
  dsimp only
  rw [seatedSide_eq_ok_iff.2 hs, ok_bind, Side.withCards_eq_ok_iff.2 ⟨hfits, rfl⟩, ok_bind]
  rfl

/-- What a move leaves in each zone. -/
theorem edited_moveCard (hg : g.Distinct) (hl : g.locate? id = some q)
    (hm : g.moveCard id dest toBottom = .ok h) :
    Edited g h (q.released dest) (q.moving dest toBottom) := by
  obtain rfl : q.card.id = id := id_of_locate? hl
  obtain ⟨s, hs, hz, -⟩ := holder_of_locate? hg.seatsOnce hl
  have hfits : Side.fits q.zone ((s.cards q.zone).filter (·.id != q.card.id)).length :=
    Side.fits_of_le (List.length_filter_le _ _) (Side.fits_cards hz)
  rw [moveCard_eq hl hs hz] at hm
  obtain ⟨released, hdon, hm⟩ := ok_of_bind hm
  obtain ⟨receiver, hr, hm⟩ := ok_of_bind hm
  obtain ⟨filled, hfill, hm⟩ := ok_of_bind hm
  cases hm
  rw [seatedSide_eq_ok_iff] at hr
  obtain ⟨hf, rfl⟩ := Side.withCards_eq_ok_iff.1 hfill
  have htaken := edited_takeOut hg hl hs hfits
  have hreleased := htaken.trans (edited_releaseDon hdon)
  have hlaid := hreleased.trans (edited_putCards hr hf)
  rw [List.nil_append, List.append_nil] at hlaid
  refine hlaid.congr fun p u hu zone => ?_
  unfold Placed.moving
  dsimp only [Edit.keep]
  split
  · rename_i hplace
    obtain ⟨rfl, rfl⟩ := hplace
    obtain ⟨t, ht, hut⟩ := hreleased.sides _ u hu
    obtain rfl : t = receiver := Option.some.inj (ht.symm.trans hr)
    rw [hut.cards]
    rfl
  · rfl

/-! ## When a move is made -/

theorem exists_returnDon_iff :
    (∃ k, g.returnDon dons = .ok k) ↔ ∀ d ∈ dons, d.owner ∈ g.seats := by
  induction dons generalizing g with
  | nil => exact ⟨fun _ d hd => (by cases hd), fun _ => ⟨g, rfl⟩⟩
  | cons d rest ih =>
    rw [List.forall_mem_cons]
    constructor
    · rintro ⟨k, hk⟩
      obtain ⟨s, hs, hk⟩ := returnDon_cases hk
      have hseat : g.side? (s.regain d).player = some s := side?_player hs
      have hrest := ih.1 ⟨k, hk⟩
      rw [seats_setSide hseat] at hrest
      exact ⟨isSome_side?_iff.1 (by rw [hs]; rfl), hrest⟩
    · rintro ⟨hd, hrest⟩
      obtain ⟨s, hs⟩ := Option.isSome_iff_exists.1 (isSome_side?_iff.2 hd)
      have hseat : g.side? (s.regain d).player = some s := side?_player hs
      rw [← seats_setSide hseat] at hrest
      obtain ⟨k, hk⟩ := ih.2 hrest
      refine ⟨k, ?_⟩
      rw [returnDon, seatedSide_eq_ok_iff.2 hs, ok_bind]
      exact hk

theorem exists_releaseDon_iff : (∃ k, g.releaseDon q.card q.zone dest = .ok k) ↔
    ∀ d ∈ q.released dest, d.owner ∈ g.seats := by
  unfold releaseDon Placed.released
  split
  · exact exists_returnDon_iff
  · exact ⟨fun _ d hd => (by cases hd), fun _ => ⟨g, rfl⟩⟩

/-- A move is made unless a seat is missing, or the zone holds no cards or has no room. -/
theorem exists_moveCard_iff (hg : g.Distinct) (hl : g.locate? id = some q) :
    (∃ h, g.moveCard id dest toBottom = .ok h) ↔
      (∀ d ∈ q.released dest, d.owner ∈ g.seats) ∧ ∃ s, g.side? (q.landing dest).player = some s ∧
        dest ∈ Zone.ofCards ∧ (dest.isSlot → ∀ c ∈ s.cards dest, c.id = id) := by
  obtain ⟨holder, hs, hz, -⟩ := holder_of_locate? hg.seatsOnce hl
  have hfits : Side.fits q.zone ((holder.cards q.zone).filter (·.id != id)).length :=
    Side.fits_of_le (List.length_filter_le _ _) (Side.fits_cards hz)
  have htaken := edited_takeOut hg hl hs hfits
  -- there is room if nothing but the card itself lies in a slot
  have hroom : ∀ {released s receiver}, (g.takeOut holder q.zone id).releaseDon q.card q.zone dest =
      .ok released → g.side? (q.landing dest).player = some s →
      released.side? (q.landing dest).player = some receiver →
      (Side.fits dest ((q.landing dest).card.laidWith toBottom (receiver.cards dest)).length ↔
        dest ∈ Zone.ofCards ∧ (dest.isSlot → ∀ c ∈ s.cards dest, c.id = id)) := by
    intro released s receiver hdon hs hr
    obtain ⟨t, ht, hst⟩ := (htaken.trans (edited_releaseDon hdon)).sides _ s hs
    obtain rfl : t = receiver := Option.some.inj (ht.symm.trans hr)
    rw [Card.length_laidWith, Side.fits_succ_iff, hst.cards]
    simp [Edit.keep, List.filter_eq_nil_iff]
  rw [moveCard_eq hl hs hz]
  constructor
  · rintro ⟨h, hm⟩
    obtain ⟨released, hdon, hm⟩ := ok_of_bind hm
    obtain ⟨receiver, hr, hm⟩ := ok_of_bind hm
    obtain ⟨filled, hfill, -⟩ := ok_of_bind hm
    rw [seatedSide_eq_ok_iff] at hr
    obtain ⟨hf, -⟩ := Side.withCards_eq_ok_iff.1 hfill
    have hreleased := htaken.trans (edited_releaseDon hdon)
    have hdons := exists_releaseDon_iff.1 ⟨released, hdon⟩
    rw [htaken.seats] at hdons
    obtain ⟨s, hs'⟩ : ∃ s, g.side? (q.landing dest).player = some s := by
      refine Option.isSome_iff_exists.1 (isSome_side?_iff.2 ?_)
      rw [← hreleased.seats]
      exact isSome_side?_iff.1 (by rw [hr]; rfl)
    exact ⟨hdons, s, hs', (hroom hdon hs' hr).1 hf⟩
  · rintro ⟨hdons, s, hs', hplace⟩
    rw [← htaken.seats] at hdons
    obtain ⟨released, hdon⟩ := exists_releaseDon_iff.2 hdons
    obtain ⟨receiver, hr, -⟩ := (htaken.trans (edited_releaseDon hdon)).sides _ s hs'
    have hf := (hroom hdon hs' hr).2 hplace
    rw [hdon, ok_bind, seatedSide_eq_ok_iff.2 hr, ok_bind,
      Side.withCards_eq_ok_iff.2 ⟨hf, rfl⟩]
    exact ⟨_, rfl⟩

/-- Nothing else than what `Obstructs` names can stand in the way. -/
theorem obstructs_iff (hg : g.Distinct) (hl : g.locate? id = some q) : g.Obstructs id dest ↔
    ¬((∀ d ∈ q.released dest, d.owner ∈ g.seats) ∧
      ∃ s, g.side? (q.landing dest).player = some s ∧ dest ∈ Zone.ofCards ∧
        (dest.isSlot → ∀ c ∈ s.cards dest, c.id = id)) := by
  obtain ⟨hq, hid⟩ := (locate?_eq_some_iff hg).1 hl
  have hsame : ∀ {r}, r ∈ g.placed → r.card.id = id → r = q := fun hr hrid =>
    eq_of_id_eq hg hr hq (hrid.trans hid.symm)
  constructor
  · rintro hblocked ⟨hdons, s, hs, hz, hslot⟩
    cases hblocked with
    | missing hgone => exact hgone q hq hid
    | cardless hdest => rcases hdest with rfl | rfl <;> simp [Zone.ofCards] at hz
    | taken hq' hid' hdest hr hplayer hzone hother =>
      obtain rfl := hsame hq' hid'
      obtain ⟨t, ht, -, hc⟩ := (mem_placed_iff hg.seatsOnce).1 hr
      rw [hplayer, hs] at ht
      obtain rfl := Option.some.inj ht
      rw [hzone] at hc
      exact hother (hslot hdest _ hc)
    | noReceiver hq' hid' hgone =>
      obtain rfl := hsame hq' hid'
      exact hgone (isSome_side?_iff.1 (by rw [hs]; rfl))
    | noDonOwner hq' hid' hd hgone =>
      obtain rfl := hsame hq' hid'
      exact hgone (hdons _ hd)
  · intro hnot
    by_contra hfree
    refine hnot ⟨fun d hd => ?_, ?_⟩
    · by_contra hgone
      exact hfree (.noDonOwner hq hid hd hgone)
    · have hseat : (q.landing dest).player ∈ g.seats := by
        by_contra hgone
        exact hfree (.noReceiver hq hid hgone)
      obtain ⟨s, hs⟩ := Option.isSome_iff_exists.1 (isSome_side?_iff.2 hseat)
      have hz : dest ∈ Zone.ofCards := by
        by_contra hz
        refine hfree (.cardless ?_)
        cases dest <;> simp_all [Zone.ofCards]
      refine ⟨s, hs, hz, fun hdest c hc => ?_⟩
      by_contra hother
      have hr : (⟨(q.landing dest).player, dest, c⟩ : Placed) ∈ g.placed :=
        (mem_placed_iff hg.seatsOnce).2 ⟨s, hs, hz, hc⟩
      exact hfree (.taken hq hid hdest hr rfl rfl hother)

theorem moveCard_error_iff (hg : g.Distinct) :
    (∃ f, g.moveCard id dest toBottom = .error f) ↔ g.Obstructs id dest := by
  cases hl : g.locate? id with
  | none =>
    have hmissing : ∀ q ∈ g.placed, q.card.id ≠ id := fun q hq hid => by
      rw [(locate?_eq_some_iff hg).2 ⟨hq, hid⟩] at hl
      cases hl
    unfold moveCard
    rw [hl]
    exact ⟨fun _ => .missing hmissing, fun _ => ⟨_, rfl⟩⟩
  | some q =>
    have hmade : (∃ h, g.moveCard id dest toBottom = .ok h) ↔ _ := exists_moveCard_iff hg hl
    rw [obstructs_iff hg hl, ← hmade]
    cases g.moveCard id dest toBottom with
    | error f => simp
    | ok h => simp

/-- Where both players sit, every card can be moved to a zone without a bound. -/
theorem exists_moveCard (hg : g.Sound) (hl : g.locate? id = some q)
    (hd : ∀ n, Side.fits dest n) : ∃ h, g.moveCard id dest toBottom = .ok h := by
  obtain ⟨s, hs⟩ := exists_side hg (q.landing dest).player
  obtain ⟨hz, -⟩ := Side.fits_succ_iff.1 (hd 1)
  refine (exists_moveCard_iff hg.toDistinct hl).2
    ⟨fun d _ => hg.present d.owner, s, hs, hz, fun hslot => ?_⟩
  have htwo := (Side.fits_succ_iff.1 (hd 2)).2 hslot
  cases htwo

/-- **A move, exactly.** It fails if and only if something stands in its way. Otherwise the card
lies once in the game, at its end of the zone where it goes: with its controller on the field, and
with its owner elsewhere. Each zone keeps its other cards in their order, the DON!! that the card
sends back lie rested in the cost areas of their owners, and nothing else has changed. -/
theorem moveCard_exact (hg : g.Distinct) (id : String) (dest : Zone) (toBottom : Bool) :
    ((∃ f, g.moveCard id dest toBottom = .error f) ↔ g.Obstructs id dest) ∧
    ∀ h, g.moveCard id dest toBottom = .ok h → h.Distinct ∧
      ∃ q ∈ g.placed, q.card.id = id ∧
        Edited g h (q.released dest) (q.moving dest toBottom) ∧
        q.card.Arrives q.zone dest (q.landing dest).card ∧
        (∀ r, r ∈ h.placed ↔ r = q.landing dest ∨ (r ∈ g.placed ∧ r.card.id ≠ id)) := by
  refine ⟨moveCard_error_iff hg, fun h hm => ?_⟩
  obtain ⟨q, hl, hplaced⟩ := mem_placed_moveCard hg hm
  exact ⟨hg.of_sameRoster (sameRoster_moveCard hg hm), q, List.mem_of_find?_eq_some hl,
    id_of_locate? hl, edited_moveCard hg hl hm, Card.arrives_arriving _ _ _, hplaced⟩

/-- The character that was taken over goes to the hand of its owner, and its DON!! to the cost area
of the player who gave it. It cannot go to the DON!! deck. -/
theorem moveCard_exact_contested : contested.Distinct ∧
    (∃ f, contested.moveCard "c2" .donDeck true = .error f) ∧
    ∃ h, contested.moveCard "c2" .hand true = .ok h ∧ h.Distinct ∧
      (∃ q ∈ contested.placed, q.card.id = "c2" ∧
        Edited contested h (q.released .hand) (q.moving .hand true)) ∧
      h.sides.map (·.hand.map (·.id)) = [["h1"], ["c2"]] ∧
      h.sides.map (·.costArea.map (·.id)) = [["don1", "don2", "don3"], ["don4"]] := by
  have hg : contested.Distinct := tidy_contested.toDistinct
  refine ⟨hg, (moveCard_exact hg "c2" .donDeck true).1.2 (.cardless (.inl rfl)), ?_⟩
  have hzones : (contested.moveCard "c2" .hand true).toOption.map (fun h =>
      (h.sides.map (·.hand.map (·.id)), h.sides.map (·.costArea.map (·.id)))) =
      some ([["h1"], ["c2"]], [["don1", "don2", "don3"], ["don4"]]) := by decide +kernel
  cases hm : contested.moveCard "c2" .hand true with
  | error f =>
    rw [hm] at hzones
    cases hzones
  | ok h =>
    rw [hm] at hzones
    obtain ⟨hd, q, hq, hid, hedited, -⟩ := (moveCard_exact hg "c2" .hand true).2 h hm
    obtain ⟨hhands, hareas⟩ := Prod.mk.inj (Option.some.inj hzones)
    exact ⟨h, rfl, hd, ⟨q, hq, hid, hedited⟩, hhands, hareas⟩

end Game

end CardRules

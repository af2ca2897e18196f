import CardRules.Proofs.Game.DonPool
import CardRules.Proofs.Game.Places

/-!
# Edits

What a change does to a game as a whole is an `Edit` of its zones, together with the DON!! that go
back to the cost areas of their owners. `Game.Edited g h dons edit` says that `h` is `g` so edited:
every zone of every player holds the cards that the edit leaves there, in that order, and nothing
else in the game is different. Edits are made one after the other (`Edited.trans`), and an edit has
one outcome only (`Edited.toTable_eq`).
-/

namespace CardRules

/-- A list is known by its keys and by the items under each of them. -/
theorem eq_of_find?_key_eq {α β : Type} [DecidableEq β] (key : α → β) :
    ∀ {xs ys : List α}, (xs.map key).Nodup → ys.map key = xs.map key →
      (∀ k, xs.find? (key · == k) = ys.find? (key · == k)) → ys = xs
  | [], _, _, hkeys, _ => List.map_eq_nil_iff.1 hkeys
  | x :: xs, [], _, hkeys, _ => by simp at hkeys
  | x :: xs, y :: ys, hn, hkeys, hfind => by
    rw [List.map_cons, List.nodup_cons] at hn
    obtain ⟨hhead, htail⟩ := List.cons.inj hkeys
    have hxy : x = y := by
      have hx := hfind (key x)
      simpa [hhead] using hx
    have hrest : ys = xs := by
      refine eq_of_find?_key_eq key hn.2 htail fun k => ?_
      by_cases hk : key x = k
      · have hnone : ∀ zs : List α, zs.map key = xs.map key →
            zs.find? (key · == k) = none := fun zs hzs => by
          refine List.find?_eq_none.2 fun z hz hkey => hn.1 ?_
          rw [← hzs, hk, ← beq_iff_eq.1 hkey]
          exact List.mem_map_of_mem hz
        rw [hnone xs rfl, hnone ys htail]
      · have hcons := hfind k
        simpa [List.find?_cons, hk, hxy ▸ hk] using hcons
    rw [hxy, hrest]

/-- The DON!! when it is back in a cost area. -/
def Don.back (d : Don) : Don := { d with zone := .costArea, orientation := .rested }

/-- What happens to the cards of a zone of a player. -/
abbrev Edit := Player → Zone → List Card → List Card

/-- Everything stays where it is. -/
def Edit.keep : Edit := fun _ _ cards => cards

/-- One card is changed where it lies. -/
def Edit.change (id : String) (f : Card → Card) : Edit := fun _ _ cards =>
  cards.map fun c => if c.id == id then f c else c

namespace Side

variable {s t u : Side} {zone : Zone} {cards : List Card} {dons more : List Don} {edit next : Edit}

@[simp] theorem flags_putCards : (s.putCards zone cards).flags = s.flags := by
  cases zone <;> rfl

/-- A side is its player's flags and DON!!, and the cards of its zones. -/
theorem eq_of_cards (hp : t.player = s.player) (hf : t.flags = s.flags)
    (hd : t.donDeck = s.donDeck) (ha : t.costArea = s.costArea)
    (hc : ∀ zone, t.cards zone = s.cards zone) : t = s := by
  have hslot : ∀ {c d : Option Card}, c.toList = d.toList → c = d := by
    intro c d h
    cases c <;> cases d <;> simp_all
  obtain ⟨player, deck, hand, trash, life, banished, donDeck, costArea, leader, characters, stage,
    flags⟩ := s
  obtain ⟨player', deck', hand', trash', life', banished', donDeck', costArea', leader',
    characters', stage', flags'⟩ := t
  obtain rfl : deck' = deck := hc .deck
  obtain rfl : hand' = hand := hc .hand
  obtain rfl : trash' = trash := hc .trash
  obtain rfl : life' = life := hc .life
  obtain rfl : banished' = banished := hc .banished
  obtain rfl : characters' = characters := hc .characterArea
  obtain rfl : leader' = leader := hslot (hc .leaderArea)
  obtain rfl : stage' = stage := hslot (hc .stageArea)
  obtain rfl : player' = player := hp
  obtain rfl : flags' = flags := hf
  obtain rfl : donDeck' = donDeck := hd
  obtain rfl : costArea' = costArea := ha
  rfl

/-- The second side is the first one with the cards of its zones edited, and with those of the
DON!! that its player owns back in the cost area. -/
structure Edited (dons : List Don) (edit : Edit) (s t : Side) : Prop where
  player : t.player = s.player
  flags : t.flags = s.flags
  donDeck : t.donDeck = s.donDeck
  costArea : t.costArea = s.costArea ++ (dons.filter (·.owner == s.player)).map Don.back
  cards : ∀ zone, t.cards zone = edit s.player zone (s.cards zone)

theorem Edited.trans (h₁ : Edited dons edit s t) (h₂ : Edited more next t u) :
    Edited (dons ++ more) (fun p zone cards => next p zone (edit p zone cards)) s u where
  player := h₂.player.trans h₁.player
  flags := h₂.flags.trans h₁.flags
  donDeck := h₂.donDeck.trans h₁.donDeck
  costArea := by
    rw [h₂.costArea, h₁.costArea, h₁.player, List.filter_append, List.map_append,
      List.append_assoc]
  cards zone := by rw [h₂.cards, h₁.cards, h₁.player]

theorem Edited.eq (h₁ : Edited dons edit s t) (h₂ : Edited dons edit s u) : t = u := by
  refine eq_of_cards (h₁.player.trans h₂.player.symm) (h₁.flags.trans h₂.flags.symm)
    (h₁.donDeck.trans h₂.donDeck.symm) (h₁.costArea.trans h₂.costArea.symm) fun zone => ?_
  rw [h₁.cards, h₂.cards]

/-- Nothing happens to a side whose player owns none of the DON!! and whose cards are left alone. -/
theorem edited_self (hd : ∀ d ∈ dons, d.owner ≠ s.player)
    (hc : ∀ zone, edit s.player zone (s.cards zone) = s.cards zone) : Edited dons edit s s where
  player := rfl
  flags := rfl
  donDeck := rfl
  costArea := by
    have hnone : dons.filter (·.owner == s.player) = [] :=
      List.filter_eq_nil_iff.2 fun d hmem => by simpa using hd d hmem
    rw [hnone, List.map_nil, List.append_nil]
  cards zone := (hc zone).symm

end Side

namespace Game

variable {g h k : Game} {s t : Side} {p : Player} {id : String} {dons more : List Don}
  {edit next : Edit}

/-- The second game is the first one with the cards of all zones edited, and with the DON!! back in
the cost areas of their owners. -/
structure Edited (g h : Game) (dons : List Don) (edit : Edit) : Prop where
  seats : h.seats = g.seats
  activePlayer : h.activePlayer = g.activePlayer
  phase : h.phase = g.phase
  turn : h.turn = g.turn
  sides : ∀ p s, g.side? p = some s → ∃ t, h.side? p = some t ∧ s.Edited dons edit t

theorem Edited.refl (g : Game) : Edited g g [] .keep where
  seats := rfl
  activePlayer := rfl
  phase := rfl
  turn := rfl
  sides _ s hs := ⟨s, hs, Side.edited_self (fun _ hd => by cases hd) fun _ => rfl⟩

theorem Edited.trans (h₁ : Edited g h dons edit) (h₂ : Edited h k more next) :
    Edited g k (dons ++ more) (fun p zone cards => next p zone (edit p zone cards)) where
  seats := h₂.seats.trans h₁.seats
  activePlayer := h₂.activePlayer.trans h₁.activePlayer
  phase := h₂.phase.trans h₁.phase
  turn := h₂.turn.trans h₁.turn
  sides p s hs := by
    obtain ⟨t, ht, hst⟩ := h₁.sides p s hs
    obtain ⟨u, hu, htu⟩ := h₂.sides p t ht
    exact ⟨u, hu, hst.trans htu⟩

/-- Only what an edit does to the cards that are there matters. -/
theorem Edited.congr (h₁ : Edited g h dons edit)
    (he : ∀ p s, g.side? p = some s → ∀ zone,
      edit p zone (s.cards zone) = next p zone (s.cards zone)) : Edited g h dons next where
  seats := h₁.seats
  activePlayer := h₁.activePlayer
  phase := h₁.phase
  turn := h₁.turn
  sides p s hs := by
    obtain ⟨t, ht, hst⟩ := h₁.sides p s hs
    refine ⟨t, ht, hst.player, hst.flags, hst.donDeck, hst.costArea, fun zone => ?_⟩
    have hsame := he p s hs zone
    rw [← player_of_side? hs] at hsame
    rw [hst.cards, hsame]

theorem side?_eq_none_iff : g.side? p = none ↔ p ∉ g.seats := by
  rw [← isSome_side?_iff, Option.not_isSome_iff_eq_none]

/-- An edit has one outcome. -/
theorem Edited.toTable_eq (hn : g.seats.Nodup) (h₁ : Edited g h dons edit)
    (h₂ : Edited g k dons edit) : h.toTable = k.toTable := by
  have hsides : h.sides = k.sides := by
    refine eq_of_find?_key_eq Side.player ?_ (h₁.seats.trans h₂.seats.symm) fun p => ?_
    · change k.seats.Nodup
      rwa [h₂.seats]
    · change k.side? p = h.side? p
      cases hs : g.side? p with
      | none =>
        have hgone := side?_eq_none_iff.1 hs
        rw [side?_eq_none_iff.2 (by rwa [h₂.seats]), side?_eq_none_iff.2 (by rwa [h₁.seats])]
      | some s =>
        obtain ⟨t, ht, hst⟩ := h₁.sides p s hs
        obtain ⟨u, hu, hsu⟩ := h₂.sides p s hs
        rw [ht, hu, hst.eq hsu]
  have hplayer := h₁.activePlayer.trans h₂.activePlayer.symm
  have hphase := h₁.phase.trans h₂.phase.symm
  have hturn := h₁.turn.trans h₂.turn.symm
  obtain ⟨⟨sides, activePlayer, phase, turn⟩, revision⟩ := h
  obtain ⟨⟨sides', activePlayer', phase', turn'⟩, revision'⟩ := k
  simp_all

/-! ## Changes of one side -/

theorem edited_setSide (hs : g.side? t.player = some s) (ht : s.Edited dons edit t)
    (hothers : ∀ p u, p ≠ t.player → g.side? p = some u → u.Edited dons edit u) :
    Edited g (g.setSide t) dons edit where
  seats := seats_setSide hs
  activePlayer := rfl
  phase := rfl
  turn := rfl
  sides p u hu := by
    by_cases hp : p = t.player
    · subst hp
      obtain rfl : s = u := Option.some.inj (hs.symm.trans hu)
      exact ⟨t, side?_setSide_self, ht⟩
    · exact ⟨u, by rw [side?_setSide_of_ne (Ne.symm hp), hu], hothers p u hp hu⟩

/-- The cards of one zone are replaced. -/
theorem edited_putCards {zone : Zone} {cards : List Card} (hs : g.side? p = some s)
    (hf : Side.fits zone cards.length) : Edited g (g.setSide (s.putCards zone cards)) []
      (fun q z old => if q = p ∧ z = zone then cards else old) := by
  have hseat : g.side? (s.putCards zone cards).player = some s := by simpa using side?_player hs
  have hplayer : (s.putCards zone cards).player = p :=
    Side.player_putCards.trans (player_of_side? hs)
  refine edited_setSide hseat ?_ fun q u hq hu => ?_
  · refine ⟨Side.player_putCards, Side.flags_putCards, Side.donDeck_putCards, by simp, fun z => ?_⟩
    by_cases hz : z = zone
    · rw [hz, Side.cards_putCards hf, if_pos ⟨player_of_side? hs, rfl⟩]
    · rw [Side.cards_putCards_of_ne hz, if_neg fun h => hz h.2]
  · have hother : u.player ≠ p := by rwa [player_of_side? hu, ← hplayer]
    exact Side.edited_self (fun _ hd => by cases hd) fun z => if_neg fun h => hother h.1

/-- DON!! go back one after the other. -/
theorem edited_returnDon (hr : g.returnDon dons = .ok k) : Edited g k dons .keep := by
  induction dons generalizing g with
  | nil =>
    cases hr
    exact .refl _
  | cons d rest ih =>
    obtain ⟨s, hs, hr⟩ := returnDon_cases hr
    have hplayer : (s.regain d).player = d.owner := player_of_side? (s := s) hs
    have hfirst : Edited g (g.setSide (s.regain d)) [d] .keep := by
      refine edited_setSide (s := s) (hplayer ▸ hs) ?_ fun q u hq hu => ?_
      · refine ⟨rfl, rfl, rfl, ?_, fun _ => rfl⟩
        simp [Side.regain, Don.back, player_of_side? hs]
      · refine Side.edited_self (fun e he => ?_) fun _ => rfl
        obtain rfl := List.mem_singleton.1 he
        rw [player_of_side? hu, ← hplayer]
        exact Ne.symm hq
    exact hfirst.trans (ih hr)

theorem edited_updateCard {f : Card → Card} (hg : g.Distinct) (hu : g.updateCard id f = .ok k) :
    Edited g k [] (.change id f) := by
  obtain ⟨q, s, cards, hl, hs, rfl, hf, rfl⟩ := updateCard_cases hu
  obtain ⟨holder, hs', hz, hmem⟩ := holder_of_locate? hg.seatsOnce hl
  obtain rfl : holder = s := Option.some.inj (hs'.symm.trans hs)
  have hid := id_of_locate? hl
  refine (edited_putCards hs hf).congr fun r u hr zone => ?_
  unfold Edit.change
  by_cases hplace : r = q.player ∧ zone = q.zone
  · obtain ⟨rfl, rfl⟩ := hplace
    obtain rfl : holder = u := Option.some.inj (hs.symm.trans hr)
    rw [if_pos ⟨rfl, rfl⟩]
    refine List.map_congr_left fun c hc => ?_
    by_cases hcid : c.id = id
    · obtain ⟨-, -, rfl⟩ := place_eq_of_id_eq hg hs hs hc hmem (hcid.trans hid.symm)
      rfl
    · rw [if_neg (by simpa using hcid), if_neg (by simpa using hcid)]
  · rw [if_neg hplace]
    conv_lhs => rw [← List.map_id (u.cards zone)]
    refine List.map_congr_left fun c hc => (if_neg fun hcid => hplace ?_).symm
    obtain ⟨hr', hz', -⟩ := place_eq_of_id_eq hg hr hs hc hmem
      ((beq_iff_eq.1 hcid).trans hid.symm)
    exact ⟨hr', hz'⟩

theorem edited_setSide_same (hs : g.side? p = some s) : Edited (g.setSide s) g [] .keep where
  seats := (seats_setSide (side?_player hs)).symm
  activePlayer := rfl
  phase := rfl
  turn := rfl
  sides r u hu := by
    refine ⟨u, ?_, Side.edited_self (fun _ hd => by cases hd) fun _ => rfl⟩
    by_cases hr : s.player = r
    · subst hr
      rw [side?_setSide_self] at hu
      rw [side?_player hs, hu]
    · rwa [side?_setSide_of_ne hr] at hu

/-- Of what is done to one card only what becomes of this card matters. -/
theorem Edited.change_congr {c : Card} {f f' : Card → Card} (hg : g.Distinct)
    (hc : g.card? id = some c) (hf : f c = f' c) (he : g.Edited h [] (.change id f)) : g.Edited h [] (.change id f') := by
  obtain ⟨found, hl, rfl⟩ := Option.map_eq_some_iff.1 hc
  obtain ⟨holder, hholder, -, hmem⟩ := holder_of_locate? hg.seatsOnce hl
  refine he.congr fun p s hs zone => List.map_congr_left fun d hd => ?_
  by_cases hid : d.id = id
  · have hsame : d.id = found.card.id := hid.trans (id_of_locate? hl).symm
    obtain ⟨-, -, rfl⟩ := place_eq_of_id_eq hg hs hholder hd hmem hsame
    rw [hf]
  · rw [if_neg (by simpa using hid), if_neg (by simpa using hid)]

theorem edited_change_self {c : Card} {f : Card → Card} (hg : g.Distinct)
    (hc : g.card? id = some c) (hf : f c = c) : g.Edited g [] (.change id f) := by
  have hkeep : g.Edited g [] (.change id fun d => d) :=
    (Edited.refl g).congr fun p s hs zone => by simp [Edit.keep, Edit.change]
  exact hkeep.change_congr hg hc hf.symm

/-- Where all cards are changed in place, they lie as before. -/
theorem Edited.mem_placed_map {q : Placed} {f : Card → Card} (hn : g.seats.Nodup)
    (he : g.Edited h [] fun _ _ cards => cards.map f) :
    q ∈ h.placed ↔ ∃ r ∈ g.placed, q = { r with card := f r.card } := by
  rw [mem_placed_iff (he.seats.symm ▸ hn)]
  constructor
  · rintro ⟨t, ht, hz, hmem⟩
    have hseat : q.player ∈ g.seats := he.seats ▸ isSome_side?_iff.1 (by rw [ht]; rfl)
    obtain ⟨s, hs⟩ := Option.isSome_iff_exists.1 (isSome_side?_iff.2 hseat)
    obtain ⟨t', ht', hst⟩ := he.sides _ s hs
    obtain rfl : t' = t := Option.some.inj (ht'.symm.trans ht)
    rw [hst.cards] at hmem
    obtain ⟨c, hc, hcard⟩ := List.mem_map.1 hmem
    exact ⟨⟨q.player, q.zone, c⟩, (mem_placed_iff hn).2 ⟨s, hs, hz, hc⟩, by rw [hcard]⟩
  · rintro ⟨r, hr, rfl⟩
    obtain ⟨s, hs, hz, hc⟩ := (mem_placed_iff hn).1 hr
    obtain ⟨t, ht, hst⟩ := he.sides _ s hs
    refine ⟨t, ht, hz, ?_⟩
    rw [hst.cards]
    exact List.mem_map_of_mem hc

/-- After one card has been changed, every card is found where it was. -/
theorem Edited.card?_change {f : Card → Card} {other : String} {c : Card}
    (he : Edited g h [] (.change id f)) (hg : g.Distinct) (hh : h.Distinct)
    (hf : ∀ c, (f c).id = c.id) (hc : g.card? other = some c) :
    h.card? other = some (if other = id then f c else c) := by
  obtain ⟨q, hl, rfl⟩ := Option.map_eq_some_iff.1 hc
  obtain ⟨hq, rfl⟩ := (locate?_eq_some_iff hg).1 hl
  have hthere := (Edited.mem_placed_map hg.seatsOnce he).2 ⟨q, hq, rfl⟩
  have hsame : (if q.card.id == id then f q.card else q.card).id = q.card.id := by
    split
    · exact hf q.card
    · rfl
  rw [card?, (locate?_eq_some_iff hh).2 ⟨hthere, hsame⟩]
  simp

end Game

end CardRules

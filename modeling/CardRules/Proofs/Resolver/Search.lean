import CardRules.Proofs.Game.Reach
import CardRules.Proofs.Game.Shifts
import CardRules.Resolver.Table

/-!
# Searching a deck

A search moves the top cards of a deck one by one: those that are picked to hand, and the others to
the bottom of the very deck that they come from, which may have fewer cards than the search looks
at. The two runs do not disturb each other, as no card is in both. Together they are one shift of
the cards that were on top (`shifts_lookAndTake`), which leaves the deck turned over and otherwise
in its order (`search_exact`).
-/

namespace CardRules

variable {g h k : Game} {s : Side} {p : Player} {id : String} {ids picked : List String}
  {dest zone : Zone} {i : Invocation} {cards : List Card} {bonus : DonBonus}

/-- A side after a search among its top cards: the picked ones are in hand, and the others at the
bottom of the deck. -/
def Side.searched (s : Side) (top : Nat) (picked : List Card) : Side :=
  { s with
    deck := s.deck.drop top ++ ((s.deck.take top).filter fun c =>
      !(picked.map (·.id)).contains c.id).map (Game.arriving · .deck .deck)
    hand := s.hand ++ picked.map (Game.arriving · .deck .hand) }

namespace Resolver

/-! ## What is picked -/

/-- The cards that a search looks at. -/
def looked (i : Invocation) (s : Side) : List Card := firstItems (count i) s.deck

/-- Those of them that it is for. -/
def matching (i : Invocation) (s : Side) : List Card :=
  (looked i s).filter fun c => i.ability.parameters.searchCriteria.all (Card.meets · c)

/-- Those of them that stay in the deck. -/
def unpicked (i : Invocation) (s : Side) (picked : List String) : List Card :=
  (looked i s).filter fun c => !picked.contains c.id

theorem sublist_firstItems {α : Type} (n : Int) (xs : List α) : (firstItems n xs).Sublist xs :=
  List.IsPrefix.sublist <| firstItems_prefix n xs

theorem sublist_deck (i : Invocation) (s : Side) : (looked i s).Sublist s.deck :=
  sublist_firstItems _ _

theorem mem_deck_of_mem_looked {c : Card} (hc : c ∈ looked i s) : c ∈ s.cards .deck :=
  (sublist_deck i s).subset hc

theorem idsOnce_of_sublist_looked (hg : g.Distinct) (hs : g.side? i.controller = some s)
    (hc : cards.Sublist (looked i s)) : (cards.map (·.id)).Nodup :=
  (Game.idsOnce_of_zone .deck hg hs (by decide)).sublist ((hc.trans (sublist_deck i s)).map _)

theorem mem_unpicked {c : Card} :
    c ∈ unpicked i s picked ↔ c ∈ looked i s ∧ c.id ∉ picked := by
  simp [unpicked]

theorem notMem_of_mem_unpicked (hid : id ∈ (unpicked i s picked).map (·.id)) : id ∉ picked := by
  obtain ⟨c, hc, rfl⟩ := List.mem_map.1 hid
  exact (mem_unpicked.1 hc).2

theorem mem_of_mem_picks (hp : picks i cards = .ok picked) :
    ∀ id ∈ picked, ∃ c ∈ cards, c.id = id := by
  intro id hid
  obtain ⟨chosen, -, hp⟩ := ok_of_bind hp
  cases chosen with
  | none =>
    cases hp
    obtain ⟨c, hc, rfl⟩ := List.mem_map.1 hid
    exact ⟨c, (sublist_firstItems _ _).subset hc, rfl⟩
  | some ids =>
    cases hp
    have hlegal := (List.mem_filter.1 ((sublist_firstItems _ _).subset hid)).2
    simpa using hlegal

/-- The entries of a choice that count: the first ones of those that name one of the cards. -/
def entries (limit : Nat) (cards : List Card) (ids : List String) : List String :=
  (ids.filter fun id => cards.any (·.id == id)).take (min limit cards.length)

/-- Only entries that name one of the cards count. -/
theorem mem_of_mem_entries {limit : Nat} (hid : id ∈ entries limit cards ids) :
    ∃ c ∈ cards, c.id = id := by
  have hlegal := (List.mem_filter.1 (List.mem_of_mem_take hid)).2
  simpa using hlegal

theorem picks_of_choice {limit : Nat} (hl : i.ability.parameters.maxTargets.getD 1 = limit)
    (hc : chosenIds i = .ok (some ids)) : picks i cards = .ok (entries limit cards ids) := by
  unfold picks
  rw [hc, ok_bind, hl, ← Nat.cast_min]
  exact congrArg Except.ok (firstItems_natCast _ _)

theorem picks_of_none {limit : Nat} (hl : i.ability.parameters.maxTargets.getD 1 = limit)
    (hc : chosenIds i = .ok none) : picks i cards = .ok ((cards.take limit).map (·.id)) := by
  unfold picks
  rw [hc, ok_bind, hl, ← Nat.cast_min, List.take_eq_take_min]
  exact congrArg (fun first : List Card => Except.ok (first.map (·.id))) (firstItems_natCast _ _)

/-- Ids of cards can be read as cards. -/
theorem exists_cards (hids : ∀ id ∈ ids, ∃ c ∈ cards, c.id = id) :
    ∃ found : List Card, found.map (·.id) = ids ∧ ∀ c ∈ found, c ∈ cards := by
  obtain ⟨found, rfl⟩ : ids ∈ Set.range (List.map fun c : { c // c ∈ cards } => c.1.id) := by
    rw [Set.range_list_map]
    intro id hid
    obtain ⟨c, hc, rfl⟩ := hids id hid
    exact ⟨⟨c, hc⟩, rfl⟩
  refine ⟨found.map Subtype.val, List.map_map, fun c hc => ?_⟩
  obtain ⟨⟨c, hmem⟩, -, rfl⟩ := List.mem_map.1 hc
  exact hmem

/-- What is picked, as cards. -/
theorem exists_picked {limit : Nat} {chosen : Option (List String)}
    (hcards : (cards.map (·.id)).Nodup)
    (hl : i.ability.parameters.maxTargets.getD 1 = limit) (hc : chosenIds i = .ok chosen) :
    ∃ (picked : List String) (taken : List Card), picks i cards = .ok picked ∧
      taken.map (·.id) = picked.dedup ∧ (∀ c ∈ taken, c ∈ cards) ∧ taken.length ≤ limit ∧
      (chosen = none → taken = cards.take limit) ∧
      ∀ ids, chosen = some ids → picked = entries limit cards ids := by
  cases chosen with
  | none =>
    refine ⟨_, cards.take limit, picks_of_none hl hc, ?_, fun c hmem => List.mem_of_mem_take hmem,
      List.length_take_le _ _, fun _ => rfl, fun ids h => by cases h⟩
    exact ((hcards.sublist (List.Sublist.map _ (List.take_sublist _ _))).dedup).symm
  | some ids =>
    obtain ⟨taken, hids, hmem⟩ := exists_cards fun id hid =>
      mem_of_mem_entries (List.mem_dedup.1 hid)
    refine ⟨_, taken, picks_of_choice hl hc, hids, hmem, ?_, fun h => (by cases h), ?_⟩
    · calc taken.length
          = (entries limit cards ids).dedup.length := by rw [← hids, List.length_map]
        _ ≤ (entries limit cards ids).length := (List.dedup_sublist _).length_le
        _ ≤ min limit cards.length := List.length_take_le _ _
        _ ≤ limit := Nat.min_le_left _ _
    · rintro _ ⟨⟩
      rfl

/-- A search that finds nothing to look at moves nothing. -/
theorem lookAndTake_eq (hs : g.side? i.controller = some s)
    (hp : picks i (matching i s) = .ok picked) : lookAndTake i g =
      (do
        let g ← g.moveCards .hand picked
        g.moveCards .deck ((unpicked i s picked).map (·.id))) := by
  unfold lookAndTake
  rw [Game.side_eq_ok_iff.2 hs, ok_bind]
  change (if (looked i s).isEmpty then pure g else picks i (matching i s) >>= _) = _
  split
  · rename_i hempty
    have hnone : looked i s = [] := List.isEmpty_iff.1 hempty
    obtain rfl : picked = [] := by
      refine List.eq_nil_iff_forall_not_mem.2 fun id hid => ?_
      obtain ⟨c, hc, -⟩ := mem_of_mem_picks hp id hid
      rw [matching, hnone] at hc
      cases hc
    rw [unpicked, hnone]
    rfl
  · have hothers : ((looked i s).map (·.id)).filter (!picked.contains ·) =
        (unpicked i s picked).map (·.id) := List.filter_map
    rw [hp, ok_bind, ← hothers]
    rfl

/-! ## The two runs -/

theorem offField_picked (hg : g.Distinct) (hs : g.side? i.controller = some s)
    (hp : picks i (matching i s) = .ok picked) : g.OffField picked := by
  refine Game.offField_of_zone .deck hg hs (by decide) (by decide) fun id hid => ?_
  obtain ⟨c, hc, hcid⟩ := mem_of_mem_picks hp id hid
  exact ⟨c, mem_deck_of_mem_looked (List.mem_filter.1 hc).1, hcid⟩

/-- The first run leaves the cards that are not picked where they are. -/
theorem locate?_unpicked {c : Card} (hg : g.Distinct) (hs : g.side? i.controller = some s)
    (hm : g.moveCards .hand picked = .ok h) (hc : c ∈ unpicked i s picked) :
    h.locate? c.id = some ⟨i.controller, .deck, c⟩ := by
  obtain ⟨hlooked, hnot⟩ := mem_unpicked.1 hc
  rw [Game.locate?_moveCards hg (by decide) hm, if_neg hnot]
  exact Game.locate?_of_mem .deck hg hs (by decide) (mem_deck_of_mem_looked hlooked)

theorem offField_unpicked (hg : g.Distinct) (hs : g.side? i.controller = some s)
    (hm : g.moveCards .hand picked = .ok h) :
    h.OffField ((unpicked i s picked).map (·.id)) := by
  intro id hid q hl
  obtain ⟨c, hc, rfl⟩ := List.mem_map.1 hid
  rw [locate?_unpicked hg hs hm hc] at hl
  cases hl
  exact Bool.false_ne_true

/-- A search needs the owners of the cards it looks at, whichever of them are picked. -/
theorem exists_lookAndTake_iff (hg : g.Distinct) (hs : g.side? i.controller = some s)
    (hp : picks i (matching i s) = .ok picked) :
    (∃ h, lookAndTake i g = .ok h) ↔ ∀ c ∈ looked i s, c.owner ∈ g.seats := by
  have hfirst : (∃ g₁, g.moveCards .hand picked = .ok g₁) ↔ _ :=
    Game.exists_moveCards_iff hg (by decide) (by decide) (offField_picked hg hs hp)
  have hlocate : ∀ c ∈ looked i s, g.locate? c.id = some ⟨i.controller, .deck, c⟩ := fun c hc =>
    Game.locate?_of_mem .deck hg hs (by decide) (mem_deck_of_mem_looked hc)
  -- what the second run needs, told of the game before the first
  have hsecond : ∀ {g₁}, g.moveCards .hand picked = .ok g₁ →
      ((∃ h, g₁.moveCards .deck ((unpicked i s picked).map (·.id)) = .ok h) ↔
        ∀ c ∈ unpicked i s picked, c.owner ∈ g.seats) := by
    intro g₁ hm
    have hroster := Game.sameRoster_moveCards hg hm
    rw [Game.exists_moveCards_iff (hg.of_sameRoster hroster) (by decide) (by decide)
      (offField_unpicked hg hs hm), List.forall_mem_map, hroster.seats]
    refine forall₂_congr fun c hc => ?_
    simp [locate?_unpicked hg hs hm hc]
  rw [lookAndTake_eq hs hp]
  constructor
  · rintro ⟨h, hm⟩ c hc
    obtain ⟨g₁, hm₁, hm₂⟩ := ok_of_bind hm
    by_cases hin : c.id ∈ picked
    · obtain ⟨q, hl, hq⟩ := hfirst.1 ⟨g₁, hm₁⟩ c.id hin
      rw [hlocate c hc] at hl
      cases hl
      exact hq
    · exact (hsecond hm₁).1 ⟨h, hm₂⟩ c (mem_unpicked.2 ⟨hc, hin⟩)
  · intro howners
    obtain ⟨g₁, hm₁⟩ := hfirst.2 fun id hid => by
      obtain ⟨c, hc, rfl⟩ := mem_of_mem_picks hp id hid
      have hlooked := (List.mem_filter.1 hc).1
      exact ⟨_, hlocate c hlooked, howners c hlooked⟩
    obtain ⟨h, hm₂⟩ := (hsecond hm₁).2 fun c hc => howners c (mem_unpicked.1 hc).1
    exact ⟨h, by rw [hm₁, ok_bind, hm₂]⟩

/-- Each card that the search looks at goes to hand if it is picked, and else under the deck. -/
theorem locate?_lookAndTake {c : Card} (hg : g.Distinct) (hs : g.side? i.controller = some s)
    (hp : picks i (matching i s) = .ok picked) (hl : lookAndTake i g = .ok h)
    (hc : c ∈ looked i s) : h.locate? c.id = some
      ((⟨i.controller, .deck, c⟩ : Placed).landing (if c.id ∈ picked then .hand else .deck)) := by
  rw [lookAndTake_eq hs hp] at hl
  obtain ⟨g₁, hm₁, hm₂⟩ := ok_of_bind hl
  have hg₁ : g₁.Distinct := hg.of_sameRoster (Game.sameRoster_moveCards hg hm₁)
  rw [Game.locate?_moveCards hg₁ (by decide) hm₂]
  by_cases hin : c.id ∈ picked
  · have hout : c.id ∉ (unpicked i s picked).map (·.id) := fun hmem =>
      notMem_of_mem_unpicked hmem hin
    rw [if_neg hout, if_pos hin, Game.locate?_moveCards hg (by decide) hm₁, if_pos hin,
      Game.locate?_of_mem .deck hg hs (by decide) (mem_deck_of_mem_looked hc)]
    rfl
  · have hmem : c ∈ unpicked i s picked := mem_unpicked.2 ⟨hc, hin⟩
    rw [if_pos (List.mem_map_of_mem hmem), if_neg hin, locate?_unpicked hg hs hm₁ hmem]
    rfl

/-- The picked cards go to hand in the order of their last mentions, the others to the bottom of
the deck in the order in which they lay on top of it. -/
theorem shifts_lookAndTake (hg : g.Distinct) (hs : g.side? i.controller = some s)
    (hp : picks i (matching i s) = .ok picked) (hl : lookAndTake i g = .ok h) :
    Game.Shifts g h (g.landings .hand picked.dedup ++
      g.landings .deck ((unpicked i s picked).map (·.id))) [] := by
  rw [lookAndTake_eq hs hp] at hl
  obtain ⟨g₁, hm₁, hm₂⟩ := ok_of_bind hl
  have hg₁ : g₁.Distinct := hg.of_sameRoster (Game.sameRoster_moveCards hg hm₁)
  have hfirst := Game.shifts_moveCards hg (by decide) (offField_picked hg hs hp) hm₁
  have hsecond := Game.shifts_moveCards hg₁ (by decide) (offField_unpicked hg hs hm₁) hm₂
  have honce : ((unpicked i s picked).map (·.id)).Nodup :=
    idsOnce_of_sublist_looked hg hs List.filter_sublist
  have hland : g₁.landings .deck ((unpicked i s picked).map (·.id)) =
      g.landings .deck ((unpicked i s picked).map (·.id)) := by
    refine List.filterMap_congr fun id hid => ?_
    rw [Game.locate?_moveCards hg (by decide) hm₁, if_neg (notMem_of_mem_unpicked hid)]
  rw [honce.dedup, hland] at hsecond
  refine hfirst.append hsecond fun r hr r' hr' hsame => ?_
  refine notMem_of_mem_unpicked (Game.id_mem_of_mem_landings hr') ?_
  rw [hsame]
  exact List.mem_dedup.1 (Game.id_mem_of_mem_landings hr)

end Resolver

/-! ## What a search leaves -/

section

variable {top : Nat} {taken : List Card}

/-- Where the top cards of a deck are placed when some of them are taken. -/
def Side.placedBySearch (s : Side) (top : Nat) (taken : List Card) : List Placed :=
  taken.map (fun c => ⟨s.player, .hand, Game.arriving c .deck .hand⟩) ++
    ((s.deck.take top).filter fun c => !(taken.map (·.id)).contains c.id).map fun c =>
      ⟨s.player, .deck, Game.arriving c .deck .deck⟩

theorem Side.among_placedBySearch (htaken : ∀ c ∈ taken, c ∈ s.deck.take top) :
    Placed.among (s.placedBySearch top taken) id ↔ ∃ c ∈ s.deck.take top, c.id = id := by
  rw [placedBySearch, Placed.among_append, Bool.or_eq_true, Placed.among_iff, Placed.among_iff]
  constructor
  · rintro (⟨r, hr, rfl⟩ | ⟨r, hr, rfl⟩)
    · obtain ⟨c, hc, rfl⟩ := List.mem_map.1 hr
      exact ⟨c, htaken c hc, (Game.id_arriving _ _ _).symm⟩
    · obtain ⟨c, hc, rfl⟩ := List.mem_map.1 hr
      exact ⟨c, (List.mem_filter.1 hc).1, (Game.id_arriving _ _ _).symm⟩
  · rintro ⟨c, hc, rfl⟩
    by_cases hin : c.id ∈ taken.map (·.id)
    · obtain ⟨d, hd, hdc⟩ := List.mem_map.1 hin
      exact .inl ⟨_, List.mem_map_of_mem hd, (Game.id_arriving _ _ _).trans hdc⟩
    · refine .inr ⟨_, List.mem_map_of_mem (List.mem_filter.2 ⟨hc, ?_⟩), Game.id_arriving _ _ _⟩
      simpa using hin

theorem Side.inZone_placedBySearch : Placed.inZone (s.placedBySearch top taken) p zone =
    (if p = s.player ∧ zone = .hand then taken.map (Game.arriving · .deck .hand) else []) ++
      if p = s.player ∧ zone = .deck then
        ((s.deck.take top).filter fun c => !(taken.map (·.id)).contains c.id).map
          (Game.arriving · .deck .deck)
      else [] := by
  rw [placedBySearch, Placed.inZone_append, Placed.inZone_map, Placed.inZone_map]

theorem Side.cards_searched : (s.searched top taken).cards zone =
    if zone = .deck then (s.searched top taken).deck
    else if zone = .hand then (s.searched top taken).hand
    else s.cards zone := by
  cases zone <;> rfl

theorem Game.filter_deck (hg : g.Distinct) (hs : g.side? p = some s)
    (htaken : ∀ c ∈ taken, c ∈ s.deck.take top) :
    s.deck.filter (fun c => !Placed.among (s.placedBySearch top taken) c.id) =
      s.deck.drop top := by
  have hn : (s.deck.map (·.id)).Nodup := idsOnce_of_zone .deck hg hs (by decide)
  rw [← List.take_append_drop top s.deck, List.map_append, List.nodup_append] at hn
  conv_lhs => rw [← List.take_append_drop top s.deck]
  rw [List.filter_append, List.filter_eq_nil_iff.2, List.filter_eq_self.2, List.nil_append]
  · intro c hc
    rw [Bool.not_eq_true', ← Bool.not_eq_true, Side.among_placedBySearch htaken]
    rintro ⟨d, hd, hid⟩
    exact hn.2.2 _ (List.mem_map_of_mem hd) _ (List.mem_map_of_mem hc) hid
  · intro c hc
    simpa using (Side.among_placedBySearch htaken).2 ⟨c, hc, rfl⟩

/-- Placing the top cards amounts to replacing the side. -/
theorem Game.shifts_searched (hg : g.Distinct) (hs : g.side? p = some s)
    (htaken : ∀ c ∈ taken, c ∈ s.deck.take top) :
    Shifts g (g.setSide (s.searched top taken)) (s.placedBySearch top taken) [] := by
  have hp : s.player = p := player_of_side? hs
  refine shifts_setSide .deck hg hs (fun r hr => ?_) (fun r hr => ?_) rfl rfl rfl rfl ?_
    fun zone hz => ?_
  · obtain ⟨c, hc, hid⟩ := (Side.among_placedBySearch htaken).1 (Placed.among_iff.2 ⟨r, hr, rfl⟩)
    exact ⟨c, List.mem_of_mem_take hc, hid⟩
  · rcases List.mem_append.1 hr with hr | hr
    all_goals
      obtain ⟨c, -, rfl⟩ := List.mem_map.1 hr
      exact hp
  · simp [Side.cards, filter_deck hg hs htaken, Side.inZone_placedBySearch, Side.searched, hp]
  · rw [Side.cards_searched, Side.inZone_placedBySearch]
    by_cases hz' : zone = .hand
    · subst hz'
      simp [Side.searched, Side.cards, hp]
    · simp [hz, hz']

/-- With a deck that belongs to its player, this is where a search places its cards. -/
theorem Resolver.landings_lookAndTake (hg : g.Distinct) (hs : g.side? i.controller = some s)
    (howner : ∀ c ∈ s.deck, c.owner = i.controller) (hlooked : looked i s = s.deck.take top)
    (htaken : ∀ c ∈ taken, c ∈ s.deck.take top) (hids : taken.map (·.id) = picked.dedup) :
    g.landings .hand picked.dedup ++ g.landings .deck ((unpicked i s picked).map (·.id)) =
      s.placedBySearch top taken := by
  have hown : ∀ {dest c}, ¬dest.isField → c ∈ s.deck →
      (⟨i.controller, .deck, c⟩ : Placed).landing dest =
        ⟨s.player, dest, Game.arriving c .deck dest⟩ := by
    intro dest c hd hc
    rw [Placed.landing, if_neg hd, howner c hc, Game.player_of_side? hs]
  have hothers : unpicked i s picked =
      (s.deck.take top).filter fun c => !(taken.map (·.id)).contains c.id := by
    rw [unpicked, hlooked, hids]
    simp
  have hmem : ∀ c ∈ unpicked i s picked, c ∈ s.deck := fun c hc =>
    mem_deck_of_mem_looked (mem_unpicked.1 hc).1
  have hmem' : ∀ c ∈ taken, c ∈ s.deck := fun c hc => List.mem_of_mem_take (htaken c hc)
  rw [← hids, Game.landings_of_zone .deck hg hs (by decide) hmem',
    Game.landings_of_zone .deck hg hs (by decide) hmem, Side.placedBySearch, ← hothers]
  congr 1
  · exact List.map_congr_left fun c hc => hown (by decide) (hmem' c hc)
  · exact List.map_congr_left fun c hc => hown (by decide) (hmem c hc)

end

/-- What carries out a search. -/
theorem ResolverTable.resolve_searchDeck (hk : i.ability.kind = .searchDeck)
    (hcount : Resolver.hasCount i) :
    (standard bonus).resolve i g = Hosted.lift (Resolver.lookAndTake i g) := by
  have hr : (standard bonus).get? i.ability.kind = some .searchDeck := by rw [hk]; rfl
  exact resolve_of_get? hr hcount

/-- **A deck search, exactly.** A player who owns the cards of their deck looks at the top ones. The
picked ones, each once, go to the end of the hand, and the others to the bottom of the deck in
their order; all of them lose what was put on them, and nothing else changes. Only cards that meet
the criteria are picked, no more of them than the limit: the first ones, unless a choice says
which. -/
theorem search_exact {n limit : Nat} {chosen : Option (List String)} (bonus : DonBonus)
    (hg : g.Distinct) (hk : i.ability.kind = .searchDeck) (hs : g.side? i.controller = some s)
    (howner : ∀ c ∈ s.deck, c.owner = i.controller)
    (hn : i.ability.parameters.cardCount = some (n : Int)) (hpos : 1 ≤ n)
    (hl : i.ability.parameters.maxTargets.getD 1 = limit)
    (hc : Resolver.chosenIds i = .ok chosen) (journal : Journal) :
    ∃ (h : Game) (taken : List Card),
      ((ResolverTable.standard bonus).resolve i g).outcome journal = (.ok h, journal) ∧
      h.toTable = (g.setSide (s.searched n taken)).toTable ∧
      (taken.map (·.id)).Nodup ∧
      (∀ c ∈ taken, c ∈ s.deck.take n ∧
        ∀ criteria ∈ i.ability.parameters.searchCriteria, c.meets criteria) ∧
      taken.length ≤ limit ∧
      (chosen = none → taken = ((s.deck.take n).filter fun c =>
        i.ability.parameters.searchCriteria.all (Card.meets · c)).take limit) ∧
      ∀ ids, chosen = some ids →
        taken.map (·.id) = (Resolver.entries limit (Resolver.matching i s) ids).dedup := by
  have hlooked : Resolver.looked i s = s.deck.take n := by
    rw [Resolver.looked, Resolver.count, hn]
    exact firstItems_natCast n s.deck
  have hcards : ((Resolver.matching i s).map (·.id)).Nodup :=
    Resolver.idsOnce_of_sublist_looked hg hs List.filter_sublist
  obtain ⟨picked, taken, hp, hids, hmem, hlength, hnone, hsome⟩ :=
    Resolver.exists_picked hcards hl hc
  have hmatch : ∀ c ∈ taken, c ∈ s.deck.take n ∧
      ∀ criteria ∈ i.ability.parameters.searchCriteria, c.meets criteria := by
    intro c hc
    have hfit := List.mem_filter.1 (hmem c hc)
    rw [hlooked] at hfit
    refine ⟨hfit.1, fun criteria hcriteria => ?_⟩
    rw [hcriteria] at hfit
    exact hfit.2
  obtain ⟨h, hh⟩ := (Resolver.exists_lookAndTake_iff hg hs hp).2 fun c hc => by
    rw [howner c (Resolver.mem_deck_of_mem_looked hc)]
    exact Game.isSome_side?_iff.1 (by rw [hs]; rfl)
  have hshift := Resolver.shifts_lookAndTake hg hs hp hh
  rw [Resolver.landings_lookAndTake hg hs howner hlooked (fun c hc => (hmatch c hc).1) hids]
    at hshift
  have hside := Game.shifts_searched hg hs fun c hc => (hmatch c hc).1
  refine ⟨h, taken, ?_, hshift.toTable_eq hg.seatsOnce hside, ?_, hmatch, hlength, ?_, ?_⟩
  · have hcount : Resolver.hasCount i := by
      rw [Resolver.hasCount, hn]
      exact decide_eq_true (Int.natCast_pos.2 hpos)
    rw [ResolverTable.resolve_searchDeck hk hcount, Hosted.outcome_lift, hh]
  · rw [hids]
    exact List.nodup_dedup _
  · intro hchosen
    rw [hnone hchosen, Resolver.matching, hlooked]
  · intro ids hchosen
    rw [hids, hsome ids hchosen]

/-- A search that looks at more cards than there are, with a choice that names one of them twice. -/
def searching : Invocation where
  ability := { (default : Ability) with
    kind := .searchDeck
    parameters := {
      cardCount := some 3, maxTargets := some 2
      searchCriteria := some { category := [.character] } } }
  sourceId := "c1"
  controller := .one
  values := [("card_ids", .arr [.str "d2", .str "ghost", .str "d2", .str "h1"])]

/-- The card is taken once, and the deck keeps the other. -/
theorem search_exact_opening :
    Game.opening.Distinct ∧ Game.opening.side? .one = some Game.openingSide ∧
    (∀ c ∈ Game.openingSide.deck, c.owner = .one) ∧
    Resolver.chosenIds searching = .ok (some ["d2", "ghost", "d2", "h1"]) ∧
    ∃ (h : Game) (taken : List Card),
      ((ResolverTable.standard ⟨none, 1000⟩).resolve searching Game.opening).outcome [] =
        (.ok h, []) ∧
      h.toTable = (Game.opening.setSide (Game.openingSide.searched 3 taken)).toTable ∧
      taken.map (·.id) = ["d2"] ∧
      (Game.openingSide.searched 3 taken).deck.map (·.id) = ["d1"] := by
  have hg : Game.opening.Distinct := Game.sound_opening.toDistinct
  have hs : Game.opening.side? .one = some Game.openingSide := rfl
  have howner : ∀ c ∈ Game.openingSide.deck, c.owner = .one := by decide
  have hn : searching.ability.parameters.cardCount = some (3 : Nat) := rfl
  have hl : searching.ability.parameters.maxTargets.getD 1 = (2 : Nat) := rfl
  have hchosen : Resolver.chosenIds searching = .ok (some ["d2", "ghost", "d2", "h1"]) := rfl
  obtain ⟨h, taken, hrun, htable, -, -, -, -, hsome⟩ :=
    search_exact ⟨none, 1000⟩ hg rfl hs howner hn (by decide) hl hchosen []
  have hids : taken.map (·.id) = ["d2"] := (hsome _ rfl).trans (by decide +kernel)
  refine ⟨hg, hs, howner, hchosen, h, taken, hrun, htable, hids, ?_⟩
  rw [Side.searched, hids]
  rfl

end CardRules

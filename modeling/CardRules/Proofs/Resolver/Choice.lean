import CardRules.Proofs.Resolver.Search

/-!
# Choices that name a card twice

A choice is kept to the entries that name a card on offer and cut to the limit, and then each entry
is carried out. A card that is named twice uses up two entries, and it is moved twice, the second
time from where it has gone to the end of the very same zone. So fewer cards may be taken than the
limit allows (`repeated_choice_falls_short`), and they may lie in another order; what counts is the
last mention of each card among the entries that count. The choice does what its first mentions
alone would do as long as no card is named twice among those entries (`choice_counts_entries`).
-/

namespace CardRules

/-! ## First mentions among the first entries -/

section

variable {α : Type} {n : Nat}

theorem take_filter_of_forall {p : α → Bool} {xs : List α} (h : ∀ x ∈ xs.take n, p x) :
    (xs.filter p).take n = xs.take n := by
  conv_lhs => rw [← List.take_append_drop n xs, List.filter_append, List.filter_eq_self.2 h]
  rcases Nat.le_total n xs.length with hle | hle
  · rw [List.take_append_of_le_length (by simp [hle]), List.take_take, Nat.min_self]
  · rw [List.drop_eq_nil_of_le hle, List.filter_nil, List.append_nil, List.take_take, Nat.min_self]

/-- Where the first items are distinct, they are the first of the distinct items. -/
theorem take_eraseDups [BEq α] [LawfulBEq α] {xs : List α} (h : (xs.take n).Nodup) :
    xs.eraseDups.take n = xs.take n := by
  induction xs generalizing n with
  | nil => simp
  | cons x xs ih =>
    cases n with
    | zero => rfl
    | succ n =>
      rw [List.take_succ_cons, List.nodup_cons] at h
      have hrest := ih h.2
      rw [eraseDups_cons_eq, List.take_succ_cons, List.take_succ_cons, take_filter_of_forall, hrest]
      intro y hy
      rw [hrest] at hy
      have hne : y ≠ x := fun hyx => h.1 (hyx ▸ hy)
      simpa using hne

end

/-! ## Choosing -/

/-- What an ability lets a player choose from, where the chosen cards go, and how many entries of
the choice count at most. -/
structure Offer where
  cards : List Card
  dest : Zone
  limit : Nat

/-- The entries of a choice that are carried out. -/
def Offer.counted (o : Offer) (ids : List String) : List String :=
  Resolver.entries o.limit o.cards ids

/-- The cards on offer that lie where the chosen ones go. -/
def Offer.arrived (o : Offer) (h : Game) : List Card :=
  o.cards.filter fun c => (h.locate? c.id).any (·.zone == o.dest)

namespace Invocation

/-- The invocation with a choice of cards. -/
def choosing (i : Invocation) (ids : List String) : Invocation :=
  { i with values := ("card_ids", .arr (ids.map .str)) :: i.values }

/-- A discard offers the hand of the affected player, a search those cards on top of the deck that
it is for. -/
def offer (i : Invocation) (g : Game) : Offer :=
  if i.ability.kind = .discardCards then
    { cards := (g.side? i.affectedPlayer).elim [] (·.hand)
      dest := .trash
      limit := (min (i.ability.parameters.maxTargets.getD (Resolver.count i))
        (Resolver.count i)).toNat }
  else
    { cards := (g.side? i.controller).elim [] (Resolver.matching i)
      dest := .hand
      limit := (i.ability.parameters.maxTargets.getD 1).toNat }

end Invocation

/-- The table that is left when an ability has been resolved, if it can be. -/
def ResolverTable.leaves (t : ResolverTable) (i : Invocation) (g : Game) (journal : Journal) :
    Option Table :=
  ((t.resolve i g).outcome journal).1.toOption.map (·.toTable)

variable {g h k : Game} {s : Side} {i : Invocation} {ids other : List String} {bonus : DonBonus}
  {cards : List Card} {journal : Journal} {limit : Nat}

namespace Resolver

theorem chosenIds_choosing (i : Invocation) (ids : List String) :
    chosenIds (i.choosing ids) = .ok (some ids) := by
  simp [chosenIds, Invocation.choosing, List.filterMap_map, Function.comp_def]

theorem discards_of_choice
    (hl : min (i.ability.parameters.maxTargets.getD (count i)) (count i) = limit)
    (hc : chosenIds i = .ok (some ids)) : discards i cards = .ok (entries limit cards ids) := by
  unfold discards
  rw [hc, ok_bind, hl, ← Nat.cast_min]
  exact congrArg Except.ok (firstItems_natCast _ _)

/-- Counted entries without repetition are those of the first mentions. -/
theorem entries_eraseDups (hn : (entries limit cards ids).Nodup) :
    entries limit cards ids.eraseDups = entries limit cards ids := by
  rw [entries, ← eraseDups_filter]
  exact take_eraseDups hn

/-- Then as many cards are named as the limit allows and the choice has to offer. -/
theorem length_entries (hn : (entries limit cards ids).Nodup) :
    (entries limit cards ids).length =
      min limit (ids.filter fun id => cards.any (·.id == id)).eraseDups.length := by
  have hlegal : (ids.filter fun id => cards.any (·.id == id)).eraseDups.length ≤ cards.length := by
    have hids : (cards.map (·.id)).length = cards.length := List.length_map _
    rw [← hids]
    refine ((nodup_eraseDups _).subperm fun id hid => ?_).length_le
    simpa using (List.mem_filter.1 (List.mem_eraseDups.1 hid)).2
  rw [← entries_eraseDups hn, entries, ← eraseDups_filter, List.length_take]
  omega

end Resolver

/-! ## The two resolvers -/

/-- Two attempts leave the same table if both succeed or both fail, and then with the same table. -/
theorem map_toTable_eq {x y : Except Fault Game}
    (hok : (∃ h, x = .ok h) ↔ ∃ h, y = .ok h)
    (htable : ∀ h k, x = .ok h → y = .ok k → h.toTable = k.toTable) :
    x.toOption.map (·.toTable) = y.toOption.map (·.toTable) := by
  cases x with
  | error f =>
    cases y with
    | error f => rfl
    | ok k =>
      obtain ⟨h, hh⟩ := hok.2 ⟨k, rfl⟩
      cases hh
  | ok h =>
    obtain ⟨k, rfl⟩ := hok.1 ⟨h, rfl⟩
    exact congrArg some (htable h k rfl rfl)

/-- What is done with a choice is decided by the entries that count. -/
structure Offer.Governs (o : Offer) (run : List String → Except Fault Game) : Prop where
  once : (o.cards.map (·.id)).Nodup
  counted : ∀ {ids other}, o.counted ids = o.counted other → run ids = run other
  /-- Only the last mention of a card shows in the end. -/
  lastMentions : ∀ {ids other}, (o.counted ids).dedup = (o.counted other).dedup →
    (run ids).toOption.map (·.toTable) = (run other).toOption.map (·.toTable)
  taken : ∀ {ids h c}, run ids = .ok h → c ∈ o.cards →
    ((h.locate? c.id).any (·.zone == o.dest) ↔ c.id ∈ o.counted ids)

namespace Resolver

/-- Where nothing is offered, nothing can be done. -/
theorem governs_error {o : Offer} (fault : Fault) (hnone : o.cards = []) :
    o.Governs fun _ => .error fault where
  once := by
    rw [hnone]
    exact List.nodup_nil
  counted _ := rfl
  lastMentions _ := rfl
  taken hrun := by cases hrun

theorem governs_discard (hg : g.Distinct) (hs : g.side? i.affectedPlayer = some s) :
    Offer.Governs ⟨s.hand, .trash, limit⟩
      fun ids => g.moveCards .trash (entries limit s.hand ids) := by
  have hoff : ∀ ids, g.OffField (entries limit s.hand ids) := fun ids =>
    Game.offField_of_zone .hand hg hs (by decide) (by decide) fun _ hid =>
      mem_of_mem_entries hid
  refine ⟨Game.idsOnce_of_zone .hand hg hs (by decide), fun {ids other} hsame => ?_,
    fun {ids other} hsame => ?_, fun {ids h c} hm hc => ?_⟩
  · exact congrArg (g.moveCards .trash) hsame
  · change (entries limit s.hand ids).dedup = (entries limit s.hand other).dedup at hsame
    refine map_toTable_eq ?_ fun h k hh hk => ?_
    · rw [Game.exists_moveCards_iff hg (by decide) (by decide) (hoff ids),
        Game.exists_moveCards_iff hg (by decide) (by decide) (hoff other)]
      refine forall_congr' fun id => ?_
      rw [← List.mem_dedup, hsame, List.mem_dedup]
    · have hfirst := Game.shifts_moveCards hg (by decide) (hoff ids) hh
      rw [hsame] at hfirst
      exact hfirst.toTable_eq hg.seatsOnce (Game.shifts_moveCards hg (by decide) (hoff other) hk)
  · change _ ↔ c.id ∈ entries limit s.hand ids
    rw [Game.locate?_moveCards hg (by decide) hm,
      Game.locate?_of_mem .hand hg hs (by decide) hc]
    by_cases hin : c.id ∈ entries limit s.hand ids <;> simp [hin, Placed.landing]

theorem governs_search (hg : g.Distinct) (hs : g.side? i.controller = some s)
    (hl : i.ability.parameters.maxTargets.getD 1 = limit) :
    Offer.Governs ⟨matching i s, .hand, limit⟩ fun ids => lookAndTake (i.choosing ids) g := by
  have hpick : ∀ ids, picks (i.choosing ids) (matching (i.choosing ids) s) =
      .ok (entries limit (matching i s) ids) := fun ids =>
    picks_of_choice hl (chosenIds_choosing i ids)
  have honce : ((matching i s).map (·.id)).Nodup :=
    idsOnce_of_sublist_looked hg hs List.filter_sublist
  refine ⟨honce, fun {ids other} hsame => ?_, fun {ids other} hsame => ?_,
    fun {ids h c} hh hc => ?_⟩
  · change entries limit (matching i s) ids = entries limit (matching i s) other at hsame
    rw [lookAndTake_eq (i := i.choosing ids) hs (hpick ids),
      lookAndTake_eq (i := i.choosing other) hs (hpick other), hsame]
    rfl
  · change (entries limit (matching i s) ids).dedup =
      (entries limit (matching i s) other).dedup at hsame
    have hstay : unpicked (i.choosing ids) s (entries limit (matching i s) ids) =
        unpicked (i.choosing other) s (entries limit (matching i s) other) := by
      refine List.filter_congr fun c _ => ?_
      have hmem : c.id ∈ entries limit (matching i s) ids ↔
          c.id ∈ entries limit (matching i s) other := by
        rw [← List.mem_dedup, hsame, List.mem_dedup]
      simp [hmem]
    refine map_toTable_eq ?_ fun h k hh hk => ?_
    · rw [exists_lookAndTake_iff (i := i.choosing ids) hg hs (hpick ids),
        exists_lookAndTake_iff (i := i.choosing other) hg hs (hpick other)]
      rfl
    · have hfirst := shifts_lookAndTake (i := i.choosing ids) hg hs (hpick ids) hh
      rw [hsame, hstay] at hfirst
      exact hfirst.toTable_eq hg.seatsOnce
        (shifts_lookAndTake (i := i.choosing other) hg hs (hpick other) hk)
  · change _ ↔ c.id ∈ entries limit (matching i s) ids
    have hlooked : c ∈ looked (i.choosing ids) s := (List.mem_filter.1 hc).1
    rw [locate?_lookAndTake (i := i.choosing ids) hg hs (hpick ids) hh hlooked]
    by_cases hin : c.id ∈ entries limit (matching i s) ids <;> simp [hin, Placed.landing]

/-- A discard moves the counted entries of the choice to the trash. -/
theorem resolve_discard (hk : i.ability.kind = .discardCards) (hcount : hasCount i)
    (hl : min (i.ability.parameters.maxTargets.getD (count i)) (count i) = limit) :
    (ResolverTable.standard bonus).resolve (i.choosing ids) g =
      Hosted.lift (do
        let side ← g.side i.affectedPlayer
        g.moveCards .trash (entries limit side.hand ids)) := by
  have hkind : (i.choosing ids).ability.kind = .discardCards := hk
  have hr : (ResolverTable.standard bonus).get? (i.choosing ids).ability.kind =
      some .discardCards := by rw [hkind]; rfl
  refine (ResolverTable.resolve_of_get? hr hcount).trans (congrArg Hosted.lift ?_)
  change (g.side i.affectedPlayer >>= fun side => discards (i.choosing ids) side.hand >>= _) = _
  refine bind_congr fun side => ?_
  rw [discards_of_choice (i := i.choosing ids) hl (chosenIds_choosing i ids), ok_bind]

theorem exists_governed (bonus : DonBonus) (hg : g.Distinct)
    (hk : i.ability.kind = .discardCards ∨ i.ability.kind = .searchDeck) (hcount : hasCount i)
    (hm : ∀ m ∈ i.ability.parameters.maxTargets, 0 ≤ m) :
    ∃ run, (i.offer g).Governs run ∧
      ∀ ids, (ResolverTable.standard bonus).resolve (i.choosing ids) g = Hosted.lift (run ids) := by
  have hmost : ∀ {default : Int}, 0 ≤ default →
      0 ≤ i.ability.parameters.maxTargets.getD default := by
    intro default hd
    cases hmax : i.ability.parameters.maxTargets with
    | none => exact hd
    | some m => exact hm m hmax
  rcases hk with hk | hk
  · have hpos : 0 ≤ count i := by
      obtain ⟨n, hn, hpos⟩ := (Option.any_eq_true _ _).1 hcount
      rw [count, hn]
      exact (of_decide_eq_true hpos).le
    have hl := (Int.toNat_of_nonneg (le_min (hmost hpos) hpos)).symm
    rw [Invocation.offer, if_pos hk]
    cases hs : g.side? i.affectedPlayer with
    | none =>
      refine ⟨_, governs_error (.noPlayer none (some i.affectedPlayer.seat)) rfl, fun ids => ?_⟩
      rw [resolve_discard hk hcount hl, Game.side, hs]
      rfl
    | some s =>
      refine ⟨_, governs_discard hg hs, fun ids => ?_⟩
      rw [resolve_discard hk hcount hl, Game.side_eq_ok_iff.2 hs, ok_bind]
  · have hl := (Int.toNat_of_nonneg (hmost Int.one_nonneg)).symm
    have hsearch : ∀ ids, (ResolverTable.standard bonus).resolve (i.choosing ids) g =
        Hosted.lift (lookAndTake (i.choosing ids) g) := fun ids =>
      ResolverTable.resolve_searchDeck (i := i.choosing ids) hk hcount
    rw [Invocation.offer, if_neg (by rw [hk]; decide)]
    cases hs : g.side? i.controller with
    | none =>
      refine ⟨_, governs_error (.noPlayer none (some i.controller.seat)) rfl, fun ids => ?_⟩
      rw [hsearch]
      change Hosted.lift (g.side i.controller >>= _) = _
      rw [Game.side, hs]
      rfl
    | some s => exact ⟨_, governs_search hg hs hl, hsearch⟩

end Resolver

/-- The cards that are taken, counted. -/
theorem Offer.Governs.length_arrived {o : Offer} {run : List String → Except Fault Game}
    (hr : o.Governs run) (hh : run ids = .ok h) :
    (o.arrived h).length = (o.counted ids).dedup.length := by
  have honce : ((o.arrived h).map (·.id)).Nodup :=
    hr.once.sublist (List.Sublist.map _ List.filter_sublist)
  have hperm : ((o.arrived h).map (·.id)).Perm (o.counted ids).dedup := by
    refine (List.perm_ext_iff_of_nodup honce (List.nodup_dedup _)).2 fun id => ?_
    rw [List.mem_map, List.mem_dedup]
    constructor
    · rintro ⟨c, hc, rfl⟩
      obtain ⟨hmem, htaken⟩ := List.mem_filter.1 hc
      exact (hr.taken hh hmem).1 htaken
    · intro hid
      obtain ⟨c, hc, rfl⟩ := Resolver.mem_of_mem_entries hid
      exact ⟨c, List.mem_filter.2 ⟨hc, (hr.taken hh hc).2 hid⟩, rfl⟩
  rw [← hperm.length_eq, List.length_map]

/-- **What a choice of cards does.** Of a discard and of a search, what is left depends on nothing
but the last mention of each card among the counted entries, and as many cards are taken as these
entries name. If they name no card twice, the choice does just what its first mentions alone would
do: it takes as many cards as the limit allows and the legal entries name. -/
theorem choice_counts_entries {n : Int} (bonus : DonBonus) (hg : g.Distinct)
    (hk : i.ability.kind = .discardCards ∨ i.ability.kind = .searchDeck)
    (hcount : i.ability.parameters.cardCount = some n) (hpos : 1 ≤ n)
    (hm : ∀ m ∈ i.ability.parameters.maxTargets, 0 ≤ m) (ids : List String) (journal : Journal) :
    (∀ other, ((i.offer g).counted ids).dedup = ((i.offer g).counted other).dedup →
      (ResolverTable.standard bonus).leaves (i.choosing ids) g journal =
        (ResolverTable.standard bonus).leaves (i.choosing other) g journal) ∧
    (∀ h, (((ResolverTable.standard bonus).resolve (i.choosing ids) g).outcome journal).1 = .ok h →
      ((i.offer g).arrived h).length = ((i.offer g).counted ids).dedup.length) ∧
    (((i.offer g).counted ids).Nodup →
      (ResolverTable.standard bonus).resolve (i.choosing ids) g =
        (ResolverTable.standard bonus).resolve (i.choosing ids.eraseDups) g ∧
      ((i.offer g).counted ids).dedup.length = min (i.offer g).limit
        (ids.filter fun id => (i.offer g).cards.any (·.id == id)).eraseDups.length) := by
  obtain ⟨run, hr, hrun⟩ := Resolver.exists_governed bonus hg hk
    ((Option.any_eq_true _ _).2 ⟨n, hcount, decide_eq_true (by omega)⟩) hm
  have hleaves : ∀ ids, (ResolverTable.standard bonus).leaves (i.choosing ids) g journal =
      (run ids).toOption.map (·.toTable) := by
    intro ids
    rw [ResolverTable.leaves, hrun, Hosted.outcome_lift]
  refine ⟨fun other hsame => ?_, fun h hh => ?_, fun hn => ⟨?_, ?_⟩⟩
  · rw [hleaves, hleaves, hr.lastMentions hsame]
  · rw [hrun, Hosted.outcome_lift] at hh
    exact hr.length_arrived hh
  · rw [hrun, hrun, hr.counted (Resolver.entries_eraseDups hn).symm]
  · rw [hn.dedup]
    exact Resolver.length_entries hn

/-- The first player has two cards to discard. -/
def handful : Game where
  sides := [
    { Game.openingSide with
      hand := [Game.member "h1" .hand .none, Game.member "h2" .hand .none] },
    { player := .two }]

theorem distinct_handful : handful.Distinct where
  seatsOnce := by decide
  idsOnce := by decide

/-- A discard of two cards. -/
def discarding : Invocation where
  ability := { (default : Ability) with
    kind := .discardCards, parameters := { cardCount := some 2 } }
  sourceId := "c1"
  controller := .one

/-- A card that is named twice at the start is all that counts, and one that is named again at the
end, where the choice is cut off, does not matter. -/
theorem choice_counts_entries_handful :
    handful.Distinct ∧ (∀ m ∈ discarding.ability.parameters.maxTargets, 0 ≤ m) ∧
    (ResolverTable.standard ⟨none, 1000⟩).leaves
        (discarding.choosing ["h1", "h1", "h2"]) handful [] =
      (ResolverTable.standard ⟨none, 1000⟩).leaves (discarding.choosing ["h1"]) handful [] ∧
    ((discarding.offer handful).counted ["h2", "ghost", "h1", "h2"]).Nodup ∧
    (ResolverTable.standard ⟨none, 1000⟩).resolve
        (discarding.choosing ["h2", "ghost", "h1", "h2"]) handful =
      (ResolverTable.standard ⟨none, 1000⟩).resolve
        (discarding.choosing ["h2", "ghost", "h1"]) handful ∧
    ((discarding.offer handful).counted ["h2", "ghost", "h1", "h2"]).dedup.length = 2 := by
  have hm : ∀ m ∈ discarding.ability.parameters.maxTargets, 0 ≤ m := fun m h => by cases h
  have hn : ((discarding.offer handful).counted ["h2", "ghost", "h1", "h2"]).Nodup := by
    decide +kernel
  have hlast : ((discarding.offer handful).counted ["h1", "h1", "h2"]).dedup =
      ((discarding.offer handful).counted ["h1"]).dedup := by
    decide +kernel
  have htwice := (choice_counts_entries ⟨none, 1000⟩ distinct_handful (.inl rfl) rfl (by decide) hm
    ["h1", "h1", "h2"] []).1 ["h1"] hlast
  obtain ⟨hsame, hlength⟩ := (choice_counts_entries ⟨none, 1000⟩ distinct_handful (.inl rfl) rfl
    (by decide) hm ["h2", "ghost", "h1", "h2"] []).2.2 hn
  exact ⟨distinct_handful, hm, htwice, hn, hsame, hlength.trans (by decide +kernel)⟩

/-- A card that is named twice at the start takes the place of the second one: a discard of two
cards takes only one, and so does a search. -/
theorem repeated_choice_falls_short :
    handful.Distinct ∧ Game.opening.Distinct ∧
    (ResolverTable.standard ⟨none, 1000⟩).leaves
        (discarding.choosing ["h1", "h1", "h2"]) handful [] ≠
      (ResolverTable.standard ⟨none, 1000⟩).leaves
        (discarding.choosing ["h1", "h1", "h2"].eraseDups) handful [] ∧
    (ResolverTable.standard ⟨none, 1000⟩).leaves
        (searching.choosing ["d1", "d1", "d2"]) Game.opening [] ≠
      (ResolverTable.standard ⟨none, 1000⟩).leaves
        (searching.choosing ["d1", "d1", "d2"].eraseDups) Game.opening [] := by
  refine ⟨distinct_handful, Game.sound_opening.toDistinct, fun hsame => ?_, fun hsame => ?_⟩
  all_goals
    have hhands := congrArg (Option.map fun t : Table => t.sides.map (·.hand.map (·.id))) hsame
    revert hhands
    decide +kernel

end CardRules

import CardRules.Proofs.Resolver.Search

/-!
# Discards without a choice

A discard with which no choice comes takes the cheapest cards of a hand. What counts is the cost
that is printed, and of cards that are printed equally cheap those in front go first
(`Card.GoesBefore`). The cards go one by one, from the cheapest on, so they lie in this order at the
end of the trash, while the others keep their places in the hand (`discard_cheapest`).
-/

namespace CardRules

/-- Sorting by a key leaves items with the same key in their order. -/
theorem pairwise_mergeSort_key {α : Type} (key : α → Int) (xs : List α) :
    (xs.mergeSort fun x y => key x ≤ key y).Pairwise fun x y =>
      key x < key y ∨ key x = key y ∧ [x, y].Sublist xs := by
  have htrans : ∀ x y z : α, decide (key x ≤ key y) → decide (key y ≤ key z) →
      decide (key x ≤ key z) := fun x y z hxy hyz => by
    rw [decide_eq_true_eq] at hxy hyz ⊢
    exact hxy.trans hyz
  have htotal : ∀ x y : α, (decide (key x ≤ key y) || decide (key y ≤ key x)) := fun x y => by
    rw [Bool.or_eq_true, decide_eq_true_eq, decide_eq_true_eq]
    exact le_total _ _
  induction xs with
  | nil => simp
  | cons a xs ih =>
    -- the new item stands behind those with a smaller key, and before all others
    obtain ⟨before, after, hwith, hwithout, hbefore⟩ := List.mergeSort_cons htrans htotal a xs
    have hafter := List.pairwise_mergeSort htrans htotal (a :: xs)
    rw [hwith, List.pairwise_append, List.pairwise_cons] at hafter
    rw [hwithout, List.pairwise_append] at ih
    have hweaken : ∀ {x y : α}, (key x < key y ∨ key x = key y ∧ [x, y].Sublist xs) →
        (key x < key y ∨ key x = key y ∧ [x, y].Sublist (a :: xs)) := fun h =>
      h.imp_right fun h => ⟨h.1, h.2.cons a⟩
    have hmem : ∀ y ∈ after, y ∈ xs := fun y hy => by
      have hsorted : y ∈ xs.mergeSort fun x y => key x ≤ key y := by
        rw [hwithout]
        exact List.mem_append_right _ hy
      exact List.mem_mergeSort.1 hsorted
    rw [hwith, List.pairwise_append, List.pairwise_cons]
    refine ⟨ih.1.imp hweaken, ⟨fun y hy => ?_, ih.2.1.imp hweaken⟩, fun x hx y hy => ?_⟩
    · have hle := of_decide_eq_true (hafter.2.1.1 y hy)
      rcases hle.lt_or_eq with hlt | heq
      · exact .inl hlt
      · exact .inr ⟨heq, (List.singleton_sublist.2 (hmem y hy)).cons_cons a⟩
    · rcases List.mem_cons.1 hy with rfl | hy
      · have hnot := hbefore x hx
        rw [Bool.not_eq_true', decide_eq_false_iff_not] at hnot
        exact .inl (not_le.1 hnot)
      · exact hweaken (ih.2.2 x hx y hy)

/-- When one of two cards of a hand has to go, the first one goes: less is printed on it, or it
stands in front of another with the same cost. -/
def Card.GoesBefore (hand : List Card) (c d : Card) : Prop :=
  c.face.printedCost < d.face.printedCost ∨
    c.face.printedCost = d.face.printedCost ∧ [c, d].Sublist hand

/-- A side after a discard: it keeps some cards in hand, and the others are at the end of the
trash. -/
def Side.discarded (s : Side) (taken kept : List Card) : Side :=
  { s with hand := kept, trash := s.trash ++ taken.map (Game.arriving · .hand .trash) }

variable {g h : Game} {s : Side} {p : Player} {i : Invocation} {bonus : DonBonus}
  {taken : List Card}

namespace Resolver

theorem cheapestFirst_perm (hand : List Card) : (cheapestFirst hand).Perm hand :=
  List.mergeSort_perm _ _

theorem pairwise_cheapestFirst (hand : List Card) :
    (cheapestFirst hand).Pairwise (Card.GoesBefore hand) :=
  pairwise_mergeSort_key (fun c : Card => c.face.printedCost) hand

/-- The cards of a hand without some of them. -/
def keptBy (hand taken : List Card) : List Card :=
  hand.filter fun c => !(taken.map (·.id)).contains c.id

/-- Without the first ones, the cheapest first, the others are left. -/
theorem keptBy_perm_drop {hand : List Card} (hids : (hand.map (·.id)).Nodup) (n : Nat) :
    (keptBy hand ((cheapestFirst hand).take n)).Perm ((cheapestFirst hand).drop n) := by
  refine filter_not_contains_perm (fun c : Card => c.id) hids ?_
  rw [List.take_append_drop]
  exact (cheapestFirst_perm hand).symm

theorem goesBefore_kept {hand : List Card} (hids : (hand.map (·.id)).Nodup) {n : Nat} {c d : Card}
    (hc : c ∈ (cheapestFirst hand).take n)
    (hd : d ∈ keptBy hand ((cheapestFirst hand).take n)) : c.GoesBefore hand d := by
  have hsorted := pairwise_cheapestFirst hand
  rw [← List.take_append_drop n (cheapestFirst hand), List.pairwise_append] at hsorted
  exact hsorted.2.2 c hc d ((keptBy_perm_drop hids n).mem_iff.1 hd)

/-- The number of cards that a discard takes at most. -/
def mostDiscarded (i : Invocation) : Int :=
  min (i.ability.parameters.maxTargets.getD (count i)) (count i)

theorem discards_of_none (cards : List Card) (hc : chosenIds i = .ok none)
    (hl : 0 ≤ mostDiscarded i) :
    discards i cards =
      .ok (((cheapestFirst cards).take (min (mostDiscarded i).toNat cards.length)).map (·.id)) := by
  have hlimit : min (mostDiscarded i) (cards.length : Int) =
      (min (mostDiscarded i).toNat cards.length : Nat) := by
    rw [Nat.cast_min, Int.toNat_of_nonneg hl]
  unfold discards
  rw [hc, ok_bind]
  change Except.ok ((firstItems (min (mostDiscarded i) cards.length) (cheapestFirst cards)).map
    (·.id)) = _
  rw [hlimit, firstItems_natCast]

/-- What carries out a discard. -/
theorem resolve_discardCards (hk : i.ability.kind = .discardCards) (hcount : hasCount i)
    (hs : g.side? i.affectedPlayer = some s) {ids : List String}
    (hd : discards i s.hand = .ok ids) :
    (ResolverTable.standard bonus).resolve i g = Hosted.lift (g.moveCards .trash ids) := by
  have hr : (ResolverTable.standard bonus).get? i.ability.kind = some .discardCards := by
    rw [hk]; rfl
  refine (ResolverTable.resolve_of_get? hr hcount).trans (congrArg Hosted.lift ?_)
  change (g.side i.affectedPlayer >>= fun side => discards i side.hand >>= _) = _
  rw [Game.side_eq_ok_iff.2 hs, ok_bind, hd, ok_bind]

end Resolver

/-- Placing hand cards in the trash amounts to replacing the side. -/
theorem Game.shifts_discarded (hg : g.Distinct) (hs : g.side? p = some s)
    (htaken : ∀ c ∈ taken, c ∈ s.hand) :
    Shifts g (g.setSide (s.discarded taken (Resolver.keptBy s.hand taken)))
      (taken.map fun c => ⟨p, .trash, arriving c .hand .trash⟩) [] := by
  have hids : ∀ id, Placed.among (taken.map fun c => ⟨p, .trash, arriving c .hand .trash⟩) id =
      (taken.map (·.id)).contains id := fun id => by
    rw [Placed.among, List.map_map]
    rfl
  refine shifts_setSide .hand hg hs (fun r hr => ?_) (fun r hr => ?_) rfl rfl rfl rfl ?_
    fun zone hz => ?_
  · obtain ⟨c, hc, rfl⟩ := List.mem_map.1 hr
    exact ⟨c, htaken c hc, (id_arriving c .hand .trash).symm⟩
  · obtain ⟨c, -, rfl⟩ := List.mem_map.1 hr
    rfl
  · simp [Side.cards, Side.discarded, Resolver.keptBy, hids, Placed.inZone_map]
  · rw [Placed.inZone_map]
    cases zone <;> simp_all [Side.cards, Side.discarded]

/-- **A discard without a choice, exactly.** A player who owns their hand discards as many cards as
the ability says, as its limit allows and as there are. The taken cards go before all that are kept,
and they lie at the end of the trash in the order in which they go, without what was put on them.
The others stay in hand in their order, and nothing else changes. -/
theorem discard_cheapest {n : Int} (bonus : DonBonus) (hg : g.Distinct)
    (hk : i.ability.kind = .discardCards) (hs : g.side? i.affectedPlayer = some s)
    (howner : ∀ c ∈ s.hand, c.owner = i.affectedPlayer)
    (hn : i.ability.parameters.cardCount = some n) (hpos : 1 ≤ n)
    (hm : ∀ m ∈ i.ability.parameters.maxTargets, 0 ≤ m)
    (hc : Resolver.chosenIds i = .ok none) (journal : Journal) :
    ∃ (h : Game) (taken kept : List Card),
      ((ResolverTable.standard bonus).resolve i g).outcome journal = (.ok h, journal) ∧
      h.toTable = (g.setSide (s.discarded taken kept)).toTable ∧
      (taken.length : Int) = min (min n (i.ability.parameters.maxTargets.getD n)) s.hand.length ∧
      (taken ++ kept).Perm s.hand ∧ kept.Sublist s.hand ∧
      (∀ c ∈ taken, ∀ d ∈ kept, c.GoesBefore s.hand d) ∧
      taken.Pairwise (Card.GoesBefore s.hand) := by
  have hcount : Resolver.hasCount i := by
    rw [Resolver.hasCount, hn]
    exact decide_eq_true (by omega)
  have hmost : Resolver.mostDiscarded i = min n (i.ability.parameters.maxTargets.getD n) := by
    rw [Resolver.mostDiscarded, Resolver.count, hn, Option.getD_some, min_comm]
  have hlimit : 0 ≤ Resolver.mostDiscarded i := by
    rw [hmost]
    cases hmax : i.ability.parameters.maxTargets with
    | none => exact le_min (by omega) (by rw [Option.getD_none]; omega)
    | some m => exact le_min (by omega) (hm m hmax)
  have hids : (s.hand.map (·.id)).Nodup := Game.idsOnce_of_zone .hand hg hs (by decide)
  have hperm := Resolver.cheapestFirst_perm s.hand
  have hd := Resolver.discards_of_none s.hand hc hlimit
  generalize hk' : min (Resolver.mostDiscarded i).toNat s.hand.length = k at hd
  have htaken : ∀ c ∈ (Resolver.cheapestFirst s.hand).take k, c ∈ s.hand := fun c hc =>
    hperm.mem_iff.1 (List.mem_of_mem_take hc)
  have honce : (((Resolver.cheapestFirst s.hand).take k).map (·.id)).Nodup :=
    ((hperm.map (·.id)).nodup_iff.2 hids).sublist ((List.take_sublist _ _).map _)
  obtain ⟨h, hh, hshift⟩ := Game.exists_moveCards_own .hand .trash hg hs (by decide)
    (by decide) (by decide) (by decide) honce htaken fun c hc => howner c (htaken c hc)
  refine ⟨h, (Resolver.cheapestFirst s.hand).take k, Resolver.keptBy s.hand _, ?_,
    hshift.toTable_eq hg.seatsOnce (Game.shifts_discarded hg hs htaken), ?_, ?_,
    List.filter_sublist, fun c hc d hd => Resolver.goesBefore_kept hids hc hd,
    (Resolver.pairwise_cheapestFirst s.hand).sublist (List.take_sublist _ _)⟩
  · rw [Resolver.resolve_discardCards hk hcount hs hd, Hosted.outcome_lift, hh]
  · rw [List.length_take, hperm.length_eq, ← hmost, ← Int.toNat_of_nonneg hlimit]
    omega
  · have hkept := (Resolver.keptBy_perm_drop hids k).append_left
      ((Resolver.cheapestFirst s.hand).take k)
    rw [List.take_append_drop] at hkept
    exact hkept.trans hperm

/-- Four cards in hand that are printed with different costs. Nothing is printed on the second, and
the first costs less than that for the moment. -/
def pricedHand : List Card := [
  { Game.member "h1" .hand .none with
    modifiers := [⟨.cost, .amount (-5), .untilEndOfTurn, "c1"⟩] },
  { Game.member "h2" .hand .none with
    face := { (Game.member "h2" .hand .none).face with baseCost := none } },
  Game.member "h3" .hand .none,
  { Game.member "h4" .hand .none with
    face := { (Game.member "h4" .hand .none).face with baseCost := some 1 } }]

/-- The first player has that hand, and one card in the trash. -/
def pricedSide : Side where
  player := .one
  hand := pricedHand
  trash := [Game.member "t1" .trash .none]

def pricedGame : Game where
  sides := [pricedSide]

/-- The second player makes the first discard three cards. -/
def robbing : Invocation where
  ability := { (default : Ability) with
    kind := .discardCards, parameters := { cardCount := some 3, maxTargets := some 5 } }
  sourceId := "c1"
  controller := .two
  targets := [.player (some .one)]

/-- The card without a cost goes first, and of the two that cost as much the first one goes. -/
theorem discard_cheapest_priced :
    pricedGame.Distinct ∧ (∀ c ∈ pricedHand, c.owner = .one) ∧
    ∃ (h : Game) (taken kept : List Card),
      ((ResolverTable.standard ⟨none, 1000⟩).resolve robbing pricedGame).outcome [] =
        (.ok h, []) ∧
      h.toTable = (pricedGame.setSide (pricedSide.discarded taken kept)).toTable ∧
      taken.length = 3 ∧ (taken ++ kept).Perm pricedHand ∧
      (Resolver.cheapestFirst pricedHand).map (·.id) = ["h2", "h4", "h1", "h3"] := by
  have hg : pricedGame.Distinct := ⟨by decide, by decide⟩
  have howner : ∀ c ∈ pricedHand, c.owner = .one := by decide
  obtain ⟨h, taken, kept, hrun, htable, hlength, hperm, -, -, -⟩ :=
    discard_cheapest (i := robbing) ⟨none, 1000⟩ hg rfl rfl howner rfl (by decide)
      (fun m hm => by cases hm; decide) rfl []
  have hthree : taken.length = 3 := Int.ofNat_inj.1 (hlength.trans (by decide))
  exact ⟨hg, howner, h, taken, kept, hrun, htable, hthree, hperm, by cbv⟩

end CardRules
